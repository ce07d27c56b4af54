import Mandate.Proofs.Ledger.Appends

/-! # What failed appends leave behind

After a failed write the chains stand where they stood, but not always the file: what the writer
had accepted of the line is written with the next append that succeeds. Unless it is nothing, the
file is spoilt for good. A whole line is one more than was recorded, with a place in the chain that
is taken again, and a part of a line makes the line that follows it on the same line illegible.
-/

namespace Mandate

open Mandate.Text

variable {hash : String → String} {journal : Journal} {a : Attempt} {fault : WriteFault}
  {written : List Bytes} {tail : Bytes}

namespace Journal

/-- The file verifies, and what is read from it are the entries that were recorded. -/
def Faithful (hash : String → String) (journal : Journal) : Prop :=
  (∃ scan, LedgerFile.scan hash journal.content = .ok scan) ∧
    LedgerFile.readAll journal.content = .ok journal.recorded

end Journal

/-- The writer accepted nothing of a line that it then failed to write. -/
def Attempt.Clean (a : Attempt) : Prop := ∀ fault, a.fault = some fault → fault.accepted = 0

/-! ## Runs that leave nothing behind -/

theorem Attempt.Clean.accepted_eq (hclean : a.Clean)
    (haccepted : journal.accepted = fileOf journal.recorded) :
    (journal.attempt hash a).accepted = fileOf (journal.attempt hash a).recorded := by
  cases hfault : a.fault with
  | none =>
      rw [Journal.accepted_of_written hfault, haccepted, Journal.attempt_of_written hfault,
        fileOf_append]
      simp [fileOf, ofLines]
  | some fault =>
      rw [Journal.accepted_of_failed hfault, Journal.recorded_of_failed hfault, haccepted,
        hclean fault hfault, List.take_zero, List.append_nil]

/-- If the failed writes left nothing behind, what was accepted is the file of what was recorded. -/
theorem accepted_run_of_clean (attempts : List Attempt)
    (haccepted : journal.accepted = fileOf journal.recorded) (hclean : ∀ a ∈ attempts, a.Clean) :
    (journal.run hash attempts).accepted = fileOf (journal.run hash attempts).recorded := by
  induction attempts generalizing journal with
  | nil => exact haccepted
  | cons a attempts ih =>
      obtain ⟨ha, hattempts⟩ := List.forall_mem_cons.mp hclean
      exact ih (ha.accepted_eq haccepted) hattempts

/-- A file of what was recorded, and nothing else, verifies and is read as it was recorded if every
entry is read back. -/
theorem faithful_iff_readsBack (hchained : Chained hash journal.ledger.chains journal.recorded)
    (hcontent : journal.content = fileOf journal.recorded) :
    journal.Faithful hash ↔ ∀ e ∈ journal.recorded, e.ReadsBack := by
  rw [Journal.Faithful, hcontent, readAll_fileOf_iff]
  exact ⟨And.right, fun hback => ⟨hchained.verifies hback, hback⟩⟩

/-! ## Runs that leave something behind -/

/-- The bytes that were accepted are some written lines and the beginning of one more. Each of them
begins like an entry, and there are at least as many lines as entries were recorded. -/
structure Layout (journal : Journal) (written : List Bytes) (tail : Bytes) : Prop where
  accepted : journal.accepted = ofLines written ++ tail
  whole : ∀ line ∈ written, BeginsEntry line ∧ 10 ∉ line ∧ line.getLast? ≠ some 13
  unfinished : 10 ∉ tail
  begins : tail = [] ∨ BeginsEntry tail
  enough : journal.recorded.length ≤ written.length

/-- The bytes cannot become a file of what was recorded any more: a line is illegible or is about to
be, or there are too many of them. -/
def Spoilt (journal : Journal) (written : List Bytes) (tail : Bytes) : Prop :=
  (∃ line ∈ written, ¬ LegibleLine line) ∨ journal.recorded.length < written.length ∨ tail ≠ []

theorem Layout.start : Layout {} [] [] :=
  ⟨rfl, by simp, by simp, Or.inl rfl, Nat.le_refl 0⟩

namespace Layout

/-- The next line to be accepted as a whole goes on with the unfinished one. -/
theorem whole_concat (hlayout : Layout journal written tail) (e : LedgerEntry) :
    ∀ line ∈ written ++ [tail ++ e.lineBytes],
      BeginsEntry line ∧ 10 ∉ line ∧ line.getLast? ≠ some 13 := by
  have hbegins : BeginsEntry (tail ++ e.lineBytes) := by
    rcases hlayout.begins with rfl | hbegins
    · exact e.beginsEntry_lineBytes
    · exact hbegins.append _
  have hnewline : 10 ∉ tail ++ e.lineBytes := by
    rw [List.mem_append, not_or]
    exact ⟨hlayout.unfinished, e.newline_notMem_lineBytes⟩
  rw [List.forall_mem_append, List.forall_mem_singleton]
  exact ⟨hlayout.whole, hbegins, hnewline, e.getLast?_append_lineBytes tail⟩

theorem accepted_concat (hlayout : Layout journal written tail) (e : LedgerEntry) :
    journal.accepted ++ (e.lineBytes ++ [10]) =
      ofLines (written ++ [tail ++ e.lineBytes]) ++ [] := by
  rw [hlayout.accepted, ofLines_append]
  simp [ofLines]

theorem attempt_written (hlayout : Layout journal written tail) (hfault : a.fault = none) :
    Layout (journal.attempt hash a) (written ++ [tail ++ (journal.entry a).lineBytes]) [] where
  accepted := (Journal.accepted_of_written hfault).trans (hlayout.accepted_concat _)
  whole := hlayout.whole_concat _
  unfinished := List.not_mem_nil
  begins := Or.inl rfl
  enough := by
    rw [Journal.attempt_of_written hfault, List.length_append, List.length_append]
    exact Nat.add_le_add_right hlayout.enough 1

/-- What is spoilt stays so when a line is written, for the line makes the unfinished one in front
of it illegible. -/
theorem spoilt_written (hlayout : Layout journal written tail) (hfault : a.fault = none)
    (hspoilt : Spoilt journal written tail) :
    Spoilt (journal.attempt hash a) (written ++ [tail ++ (journal.entry a).lineBytes]) [] := by
  rcases hspoilt with ⟨line, hline, hillegible⟩ | htoo | htail
  · exact Or.inl ⟨line, List.mem_append_left _ hline, hillegible⟩
  · refine Or.inr (Or.inl ?_)
    rw [Journal.attempt_of_written hfault, List.length_append, List.length_append]
    exact Nat.add_lt_add_right htoo 1
  · have hbegins := hlayout.begins.resolve_left htail
    exact Or.inl ⟨_, List.mem_append_right _ List.mem_cons_self, hbegins.not_legible _⟩

/-- A failed write that accepted nothing changes nothing. -/
theorem attempt_clean (hlayout : Layout journal written tail) (hfault : a.fault = some fault)
    (hnothing : fault.accepted = 0) : Layout (journal.attempt hash a) written tail where
  accepted := by
    rw [Journal.accepted_of_failed hfault, hnothing, List.take_zero, List.append_nil,
      hlayout.accepted]
  whole := hlayout.whole
  unfinished := hlayout.unfinished
  begins := hlayout.begins
  enough := by
    rw [Journal.recorded_of_failed hfault]
    exact hlayout.enough

/-- A failed write that accepted a part of a line leaves it unfinished. -/
theorem attempt_torn (hlayout : Layout journal written tail) (hfault : a.fault = some fault)
    (hsome : fault.accepted ≠ 0) (hpart : fault.accepted ≤ (journal.entry a).lineBytes.length) :
    Layout (journal.attempt hash a) written
      (tail ++ (journal.entry a).lineBytes.take fault.accepted) where
  accepted := by
    rw [Journal.accepted_of_failed hfault, List.take_append_of_le_length hpart,
      hlayout.accepted, List.append_assoc]
  whole := hlayout.whole
  unfinished := by
    rw [List.mem_append, not_or]
    exact ⟨hlayout.unfinished, fun hmem =>
      (journal.entry a).newline_notMem_lineBytes (List.mem_of_mem_take hmem)⟩
  begins := by
    refine Or.inr ?_
    rcases hlayout.begins with rfl | hbegins
    · exact (journal.entry a).beginsEntry_lineBytes.take hsome
    · exact hbegins.append _
  enough := by
    rw [Journal.recorded_of_failed hfault]
    exact hlayout.enough

/-- A failed write that accepted the whole line leaves one line more than was recorded. -/
theorem attempt_unflushed (hlayout : Layout journal written tail) (hfault : a.fault = some fault)
    (hwhole : (journal.entry a).lineBytes.length < fault.accepted) :
    Layout (journal.attempt hash a) (written ++ [tail ++ (journal.entry a).lineBytes]) [] where
  accepted := by
    have hall : ((journal.entry a).lineBytes ++ [10]).length ≤ fault.accepted := by
      rw [List.length_append]
      exact hwhole
    rw [Journal.accepted_of_failed hfault, List.take_of_length_le hall]
    exact hlayout.accepted_concat _
  whole := hlayout.whole_concat _
  unfinished := List.not_mem_nil
  begins := Or.inl rfl
  enough := by
    rw [Journal.recorded_of_failed hfault, List.length_append]
    exact Nat.le_add_right_of_le hlayout.enough

/-- Every append leads to a layout again. It is spoilt if it was before, and if the append failed
with something accepted. -/
theorem attempt (hlayout : Layout journal written tail) (hash : String → String) (a : Attempt) :
    ∃ written' tail', Layout (journal.attempt hash a) written' tail' ∧
      (Spoilt journal written tail ∨ ¬ a.Clean →
        Spoilt (journal.attempt hash a) written' tail') := by
  cases hfault : a.fault with
  | none =>
      refine ⟨_, _, hlayout.attempt_written hfault, ?_⟩
      rintro (hspoilt | hunclean)
      · exact hlayout.spoilt_written hfault hspoilt
      · exact absurd (fun fault hsome => by rw [hfault] at hsome; cases hsome) hunclean
  | some fault =>
      by_cases hnothing : fault.accepted = 0
      · refine ⟨_, _, hlayout.attempt_clean hfault hnothing, ?_⟩
        rintro (hspoilt | hunclean)
        · rw [Spoilt, Journal.recorded_of_failed hfault]
          exact hspoilt
        · refine absurd (fun other hsome => ?_) hunclean
          obtain rfl : fault = other := Option.some.inj (hfault.symm.trans hsome)
          exact hnothing
      · by_cases hpart : fault.accepted ≤ (journal.entry a).lineBytes.length
        · refine ⟨_, _, hlayout.attempt_torn hfault hnothing hpart, fun _ => ?_⟩
          refine Or.inr (Or.inr (List.append_ne_nil_of_right_ne_nil _ ?_))
          exact ((journal.entry a).beginsEntry_lineBytes.take hnothing).ne_nil
        · refine ⟨_, _, hlayout.attempt_unflushed hfault (Nat.lt_of_not_le hpart), fun _ => ?_⟩
          refine Or.inr (Or.inl ?_)
          rw [Journal.recorded_of_failed hfault, List.length_append]
          exact Nat.lt_succ_of_le hlayout.enough

theorem run (hlayout : Layout journal written tail) (hash : String → String)
    (attempts : List Attempt) :
    ∃ written' tail', Layout (journal.run hash attempts) written' tail' ∧
      (Spoilt journal written tail ∨ (∃ a ∈ attempts, ¬ a.Clean) →
        Spoilt (journal.run hash attempts) written' tail') := by
  induction attempts generalizing journal written tail with
  | nil => exact ⟨written, tail, hlayout, fun h => h.elim id fun ⟨_, ha, _⟩ => by cases ha⟩
  | cons a attempts ih =>
      obtain ⟨written₁, tail₁, hlayout₁, hspoilt₁⟩ := hlayout.attempt hash a
      obtain ⟨written₂, tail₂, hlayout₂, hspoilt₂⟩ := ih hlayout₁
      refine ⟨written₂, tail₂, hlayout₂, fun hbefore => hspoilt₂ ?_⟩
      rcases hbefore with hspoilt | ⟨b, hb, hunclean⟩
      · exact Or.inl (hspoilt₁ (Or.inl hspoilt))
      · rcases List.mem_cons.mp hb with rfl | hb
        · exact Or.inl (hspoilt₁ (Or.inr hunclean))
        · exact Or.inr ⟨b, hb, hunclean⟩

/-- A file without an unfinished line that is spoilt is not read as what was recorded. -/
theorem not_read (hlayout : Layout journal written []) (hspoilt : Spoilt journal written [])
    (hpending : journal.ledger.pending = []) :
    LedgerFile.readAll journal.content ≠ .ok journal.recorded := by
  intro hread
  have hcontent : journal.content = ofLines written := by
    rw [Journal.content_of_pending hpending, hlayout.accepted, List.append_nil]
  rw [LedgerFile.readAll, hcontent, lines_ofLines fun line hline => (hlayout.whole line hline).2,
    LedgerFile.entriesOf_eq_ok_iff] at hread
  obtain ⟨hlegible, hentries⟩ := hread
  rcases hspoilt with ⟨line, hline, hillegible⟩ | htoo | htail
  · exact hillegible (hlegible line hline)
  · have hfilled : ∀ line ∈ written, LegibleLine line ∧ ¬ BlankLine line := fun line hline =>
      ⟨hlegible line hline, (hlayout.whole line hline).1.not_blank⟩
    rw [← hentries, List.length_map, length_filterMap_ofLine? hfilled] at htoo
    exact Nat.lt_irrefl _ htoo
  · exact htail rfl

end Layout

/-- If a failed write leaves something behind, no later append makes up for it. -/
theorem clean_of_faithful {attempts : List Attempt}
    (hfaithful : ((Journal.run hash {} attempts).attempt hash a).Faithful hash)
    (hfault : a.fault = none) : ∀ b ∈ attempts, b.Clean := by
  intro b hb
  by_contra hunclean
  obtain ⟨written, tail, hlayout, hspoilt⟩ := Layout.start.run hash attempts
  have hspoilt := hspoilt (Or.inr ⟨b, hb, hunclean⟩)
  exact (hlayout.attempt_written hfault).not_read (hlayout.spoilt_written hfault hspoilt)
    (Journal.pending_of_written hfault) hfaithful.2

/-- After appends of which the last one succeeds, the file verifies and holds what was recorded
exactly if every write that failed had accepted nothing of its line, and the entries that were
recorded are read back from their lines. -/
theorem faithful_iff (hash : String → String) (attempts : List Attempt) (record : AuditRecord)
    (stamp : Stamp) :
    (Journal.run hash {} (attempts ++ [⟨record, stamp, none⟩])).Faithful hash ↔
      (∀ a ∈ attempts, a.Clean) ∧
      ∀ e ∈ (Journal.run hash {} (attempts ++ [⟨record, stamp, none⟩])).recorded, e.ReadsBack := by
  have hlast : Journal.run hash {} (attempts ++ [⟨record, stamp, none⟩]) =
      (Journal.run hash {} attempts).attempt hash ⟨record, stamp, none⟩ := Journal.run_append ..
  have hwhole (hclean : ∀ a ∈ attempts, a.Clean) :
      (Journal.run hash {} (attempts ++ [⟨record, stamp, none⟩])).Faithful hash ↔
        ∀ e ∈ (Journal.run hash {} (attempts ++ [⟨record, stamp, none⟩])).recorded,
          e.ReadsBack := by
    apply faithful_iff_readsBack (Chained.start.run _)
    rw [Journal.content_of_pending (hlast ▸ Journal.pending_of_written rfl)]
    apply accepted_run_of_clean _ rfl
    rw [List.forall_mem_append, List.forall_mem_singleton]
    exact ⟨hclean, fun fault hsome => by cases hsome⟩
  constructor
  · intro hfaithful
    have hclean : ∀ a ∈ attempts, a.Clean := clean_of_faithful (hlast ▸ hfaithful) rfl
    exact ⟨hclean, (hwhole hclean).mp hfaithful⟩
  · rintro ⟨hclean, hback⟩
    exact (hwhole hclean).mpr hback

/-! ## A flush that fails -/

theorem Attempt.not_clean_of_accepted {count out : Nat}
    (hfault : a.fault = some ⟨count + 1, out⟩) : ¬ a.Clean := fun hclean =>
  Nat.add_one_ne_zero count (hclean _ hfault)

theorem Journal.accepted_of_unflushed {out : Nat}
    (hfault : a.fault = some ⟨(journal.entry a).lineBytes.length + 1, out⟩) :
    (journal.attempt hash a).accepted =
      journal.accepted ++ ((journal.entry a).lineBytes ++ [10]) := by
  rw [accepted_of_failed hfault, List.take_length_add_append, List.take_succ_cons, List.take_nil]

/-- The first event, whose line is accepted as a whole but cannot be flushed. -/
def unflushed : Attempt :=
  { numbered 1 with fault := some ⟨firstEntry.lineBytes.length + 1, 0⟩ }

/-- The entry that is answered after the flush has failed. It takes the first place again. -/
def takenAgain : LedgerEntry := Journal.entry {} (numbered 2)

/-- An event with a payload that is not read back: its shortest digits are those of `5e+32` with a
remainder, and as a literal they are read as the double next to it. -/
def rounded : Attempt where
  record :=
    { (numbered 1).record with payload := .number (.float ⟨false, 6938893903907229, 1130⟩) }
  stamp := default

theorem fault_unflushed :
    unflushed.fault = some ⟨firstEntry.lineBytes.length + 1, 0⟩ := rfl

theorem not_clean_unflushed : ¬ unflushed.Clean := Attempt.not_clean_of_accepted fault_unflushed

/-- The ledger after the flush has failed. -/
def afterUnflushed : Journal := Journal.attempt Digest.hex {} unflushed

theorem run_unflushed : Journal.run Digest.hex {} [unflushed, numbered 2] =
    afterUnflushed.attempt Digest.hex (numbered 2) := rfl

theorem entry_unflushed : afterUnflushed.entry (numbered 2) = takenAgain := by
  rw [Journal.entry, afterUnflushed, Journal.chains_of_failed fault_unflushed]
  rfl

theorem accepted_unflushed : afterUnflushed.accepted = firstEntry.lineBytes ++ [10] := by
  have hentry : Journal.entry {} unflushed = firstEntry := rfl
  have hstart : Journal.accepted {} = [] := rfl
  have hfault := fault_unflushed
  rw [← hentry] at hfault
  rw [afterUnflushed, Journal.accepted_of_unflushed hfault, hstart, hentry, List.nil_append]

theorem recorded_unflushed :
    (Journal.run Digest.hex {} [unflushed, numbered 2]).recorded = [takenAgain] := by
  rw [run_unflushed, Journal.attempt_of_written rfl, entry_unflushed, afterUnflushed,
    Journal.recorded_of_failed fault_unflushed]
  rfl

theorem content_unflushed : (Journal.run Digest.hex {} [unflushed, numbered 2]).content =
    fileOf [firstEntry, takenAgain] := by
  rw [run_unflushed, Journal.attempt_of_written rfl, entry_unflushed, accepted_unflushed]
  simp only [fileOf, ofLines, List.map_cons, List.map_nil, List.flatMap_cons, List.flatMap_nil,
    List.append_nil]

theorem rounded_not_readsBack : ¬ (Journal.entry {} rounded).ReadsBack := by
  rw [LedgerEntry.ReadsBack, Chains.readEntry, Json.Tree.ofText?, LedgerEntry.line,
    Json.Value.text, String.toList_ofList]
  decide +kernel

/-- The entry that could not be flushed is in the file and was not recorded, in the place of the one
that was. Even without any failed write, an entry can be read as another one. -/
theorem unflushed_entry_remains :
    (Journal.run Digest.hex {} [unflushed, numbered 2]).recorded = [takenAgain] ∧
    (Journal.run Digest.hex {} [unflushed, numbered 2]).content =
      fileOf [firstEntry, takenAgain] ∧
    firstEntry.seq = 1 ∧ takenAgain.seq = 1 ∧
    ¬ (Journal.run Digest.hex {} [unflushed, numbered 2]).Faithful Digest.hex ∧
    ¬ (Journal.run Digest.hex {} [rounded]).Faithful Digest.hex := by
  refine ⟨recorded_unflushed, content_unflushed, rfl, rfl, fun hfaithful => ?_, fun hfaithful => ?_⟩
  · have hlast : ((Journal.run Digest.hex {} [unflushed]).attempt Digest.hex
        (numbered 2)).Faithful Digest.hex := hfaithful
    exact not_clean_unflushed (clean_of_faithful hlast rfl unflushed List.mem_cons_self)
  · have hread : LedgerFile.readAll (fileOf [Journal.entry {} rounded]) =
        .ok [Journal.entry {} rounded] := by
      have hcontent : (Journal.run Digest.hex {} [rounded]).content =
          fileOf [Journal.entry {} rounded] :=
        content_run_of_written [rounded] rfl rfl (by simp [rounded])
      exact hcontent ▸ hfaithful.2
    exact rounded_not_readsBack ((readAll_fileOf_iff _).mp hread _ List.mem_cons_self)

end Mandate
