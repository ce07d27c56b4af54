import Mandate.Digest
import Mandate.Proofs.Ledger.EntryLine

/-! # Runs of appends

Records are appended one after the other, and any of the writes may fail. The chains go on with the
entries that were answered, and with no others. What a failed write has accepted goes to the file
all the same, now or with a later one, so the file holds all bytes that were ever accepted.
-/

namespace Mandate

open Mandate.Text

/-- An append, and how its write fails, if it does. -/
structure Attempt where
  record : AuditRecord
  stamp : Stamp
  fault : Option WriteFault := none

/-- A ledger with its file, and the entries with which its appends were answered so far. -/
structure Journal where
  ledger : Ledger := {}
  content : Bytes := []
  recorded : List LedgerEntry := []

variable {hash : String → String} {journal : Journal} {a : Attempt} {org : Uuid}

/-! ## One append -/

namespace Journal

/-- Append a record. -/
def attempt (hash : String → String) (journal : Journal) (a : Attempt) : Journal :=
  match journal.ledger.append hash journal.content a.record a.stamp a.fault with
  | (.ok entry, ledger, content) => ⟨ledger, content, journal.recorded ++ [entry]⟩
  | (.error _, ledger, content) => ⟨ledger, content, journal.recorded⟩

/-- Append records one after the other. -/
def run (hash : String → String) (journal : Journal) (attempts : List Attempt) : Journal :=
  attempts.foldl (attempt hash) journal

/-- The entry that an append is about to write. -/
def entry (journal : Journal) (a : Attempt) : LedgerEntry :=
  journal.ledger.chains.entryFor a.record a.stamp

/-- The bytes that were accepted so far, in the file or not. -/
def accepted (journal : Journal) : Bytes := journal.content ++ journal.ledger.pending

theorem run_append (first more : List Attempt) :
    journal.run hash (first ++ more) = (journal.run hash first).run hash more :=
  List.foldl_append

theorem attempt_of_written (hfault : a.fault = none) : journal.attempt hash a =
    ⟨⟨journal.ledger.chains.advance hash (journal.entry a) (journal.entry a).line, []⟩,
      journal.accepted ++ ((journal.entry a).lineBytes ++ [10]),
      journal.recorded ++ [journal.entry a]⟩ := by
  rw [attempt, hfault, accepted, List.append_assoc]
  rfl

theorem pending_of_written (hfault : a.fault = none) :
    (journal.attempt hash a).ledger.pending = [] := by
  rw [attempt_of_written hfault]

/-- If nothing waits, everything that was accepted is in the file. -/
theorem content_of_pending (hpending : journal.ledger.pending = []) :
    journal.content = journal.accepted := by
  rw [accepted, hpending, List.append_nil]

variable {fault : WriteFault}

theorem recorded_of_failed (hfault : a.fault = some fault) :
    (journal.attempt hash a).recorded = journal.recorded := by
  rw [attempt, hfault]
  rfl

theorem chains_of_failed (hfault : a.fault = some fault) :
    (journal.attempt hash a).ledger.chains = journal.ledger.chains := by
  rw [attempt, hfault]
  rfl

theorem accepted_of_written (hfault : a.fault = none) : (journal.attempt hash a).accepted =
    journal.accepted ++ ((journal.entry a).lineBytes ++ [10]) := by
  rw [attempt_of_written hfault, accepted, List.append_nil]

/-- A failed append adds to what was accepted as much as the writer took of its line. -/
theorem accepted_of_failed (hfault : a.fault = some fault) : (journal.attempt hash a).accepted =
    journal.accepted ++ ((journal.entry a).lineBytes ++ [10]).take fault.accepted := by
  rw [attempt, hfault, accepted, accepted]
  simp only [Ledger.append, Ledger.waiting]
  rw [List.append_assoc, List.take_append_drop, List.append_assoc]
  rfl

end Journal

/-! ## Chains -/

/-- The links of an organisation among some entries, each on its own line. -/
def linksFor (org : Uuid) (entries : List LedgerEntry) : List Link :=
  (entries.map LedgerEntry.link).filter fun link => link.entry.orgId = org

theorem linksFor_concat (org : Uuid) (entries : List LedgerEntry) (e : LedgerEntry) :
    linksFor org (entries ++ [e]) =
      linksFor org entries ++ if e.orgId = org then [e.link] else [] := by
  simp [linksFor, LedgerEntry.link, List.filter_cons]

theorem linksFor_cons (org : Uuid) (e : LedgerEntry) (entries : List LedgerEntry) :
    linksFor org (e :: entries) =
      if e.orgId = org then e.link :: linksFor org entries else linksFor org entries := by
  simp [linksFor, LedgerEntry.link, List.filter_cons]

theorem linksFor_eq_nil_iff {org : Uuid} {entries : List LedgerEntry} :
    linksFor org entries = [] ↔ ∀ e ∈ entries, e.orgId ≠ org := by
  simp [linksFor, LedgerEntry.link]

/-- The chains go on from others with the entries: each head is that of an organisation's last
entry, and the entries of each organisation continue one another and the chain before them. -/
def ChainedFrom (hash : String → String) (start chains : Chains) (entries : List LedgerEntry) :
    Prop :=
  ∀ org, chains.head? org = lastHead hash (start.head? org) (linksFor org entries) ∧
    Linked hash (start.head? org) (linksFor org entries)

/-- The chains are those of the entries: each head is that of an organisation's last entry, and the
entries of each organisation continue one another. -/
def Chained (hash : String → String) (chains : Chains) (entries : List LedgerEntry) : Prop :=
  ∀ org, chains.head? org = lastHead hash none (linksFor org entries) ∧
    Linked hash none (linksFor org entries)

theorem chainedFrom_start_iff {chains : Chains} {entries : List LedgerEntry} :
    ChainedFrom hash {} chains entries ↔ Chained hash chains entries := Iff.rfl

theorem ChainedFrom.start (chains : Chains) : ChainedFrom hash chains chains [] :=
  fun _ => ⟨rfl, trivial⟩

theorem Chained.start : Chained hash {} [] := fun _ => ⟨rfl, trivial⟩

theorem ChainedFrom.advance {start chains : Chains} {entries : List LedgerEntry} {e : LedgerEntry}
    (hchained : ChainedFrom hash start chains entries)
    (hcontinues : Continues (chains.head? e.orgId) e) :
    ChainedFrom hash start (chains.advance hash e e.line) (entries ++ [e]) := by
  intro org
  obtain ⟨hhead, hlinked⟩ := hchained org
  have hadvance : (chains.advance hash e e.line).head? org =
      if org = e.orgId then some (e.link.head hash) else chains.head? org :=
    Chains.head?_advance chains e.link org
  rw [hadvance, linksFor_concat]
  by_cases horg : e.orgId = org
  · subst horg
    rw [if_pos rfl, if_pos rfl, lastHead_append, linked_append_iff]
    exact ⟨rfl, hlinked, hhead ▸ hcontinues, trivial⟩
  · rw [if_neg horg, if_neg (Ne.symm horg), List.append_nil]
    exact ⟨hhead, hlinked⟩

theorem continues_entryFor (chains : Chains) (record : AuditRecord) (stamp : Stamp) :
    Continues (chains.head? record.orgId) (chains.entryFor record stamp) :=
  Chains.continues_iff.mpr ⟨rfl, rfl⟩

theorem ChainedFrom.attempt {start : Chains}
    (hchained : ChainedFrom hash start journal.ledger.chains journal.recorded) (a : Attempt) :
    ChainedFrom hash start (journal.attempt hash a).ledger.chains
      (journal.attempt hash a).recorded := by
  cases hfault : a.fault with
  | none =>
      rw [Journal.attempt_of_written hfault]
      exact hchained.advance (continues_entryFor _ a.record a.stamp)
  | some fault =>
      rw [Journal.chains_of_failed hfault, Journal.recorded_of_failed hfault]
      exact hchained

theorem Chained.attempt (hchained : Chained hash journal.ledger.chains journal.recorded)
    (a : Attempt) : Chained hash (journal.attempt hash a).ledger.chains
      (journal.attempt hash a).recorded :=
  (chainedFrom_start_iff.mpr hchained).attempt a

/-- The chains of a ledger go on with the entries that were recorded, whichever writes fail. -/
theorem ChainedFrom.run {start : Chains}
    (hchained : ChainedFrom hash start journal.ledger.chains journal.recorded)
    (attempts : List Attempt) : ChainedFrom hash start (journal.run hash attempts).ledger.chains
      (journal.run hash attempts).recorded := by
  induction attempts generalizing journal with
  | nil => exact hchained
  | cons a attempts ih => exact ih (hchained.attempt a)

/-- The chains of a ledger are those of the entries that were recorded, whichever writes fail. -/
theorem Chained.run (hchained : Chained hash journal.ledger.chains journal.recorded)
    (attempts : List Attempt) : Chained hash (journal.run hash attempts).ledger.chains
      (journal.run hash attempts).recorded :=
  (chainedFrom_start_iff.mpr hchained).run attempts

/-! ## Files of entries -/

/-- The file of some entries. -/
def fileOf (entries : List LedgerEntry) : Bytes := ofLines (entries.map LedgerEntry.lineBytes)

theorem fileOf_append (entries more : List LedgerEntry) :
    fileOf (entries ++ more) = fileOf entries ++ fileOf more := by
  rw [fileOf, List.map_append, ofLines_append]
  rfl

theorem lines_fileOf (entries : List LedgerEntry) :
    lines (fileOf entries) = entries.map LedgerEntry.lineBytes := by
  apply lines_ofLines
  intro line hline
  obtain ⟨e, -, rfl⟩ := List.mem_map.mp hline
  exact ⟨e.newline_notMem_lineBytes, e.getLast?_append_lineBytes []⟩

variable {entries : List LedgerEntry}

theorem filterMap_lineBytes (hback : ∀ e ∈ entries, e.ReadsBack) :
    (entries.map LedgerEntry.lineBytes).filterMap Link.ofLine? =
      entries.map LedgerEntry.link := by
  induction entries with
  | nil => rfl
  | cons e entries ih =>
      obtain ⟨he, hentries⟩ := List.forall_mem_cons.mp hback
      rw [List.map_cons, List.filterMap_cons_some he.ofLine?, ih hentries, List.map_cons]

theorem linksOf_lineBytes (hback : ∀ e ∈ entries, e.ReadsBack) (org : Uuid) :
    linksOf org (entries.map LedgerEntry.lineBytes) = linksFor org entries := by
  rw [linksOf, filterMap_lineBytes hback, linksFor]

theorem legible_lineBytes (hback : ∀ e ∈ entries, e.ReadsBack) :
    ∀ line ∈ entries.map LedgerEntry.lineBytes, LegibleLine line := by
  intro line hline
  obtain ⟨e, he, rfl⟩ := List.mem_map.mp hline
  exact Or.inr ⟨e.link, (hback e he).ofLine?⟩

/-- The file of chained entries that are read back is accepted. -/
theorem Chained.accepted {chains : Chains} (hchained : Chained hash chains entries)
    (hback : ∀ e ∈ entries, e.ReadsBack) :
    Accepted hash (entries.map LedgerEntry.lineBytes) := by
  refine accepted_iff.mpr ⟨legible_lineBytes hback, fun org => ?_⟩
  rw [linksOf_lineBytes hback]
  exact (hchained org).2

theorem Chained.verifies {chains : Chains} (hchained : Chained hash chains entries)
    (hback : ∀ e ∈ entries, e.ReadsBack) :
    ∃ scan, LedgerFile.scan hash (fileOf entries) = .ok scan := by
  rw [LedgerFile.scan, lines_fileOf]
  exact hchained.accepted hback

/-- All entries are read from their file exactly if each one is read back. -/
theorem readAll_fileOf_iff (entries : List LedgerEntry) :
    LedgerFile.readAll (fileOf entries) = .ok entries ↔ ∀ e ∈ entries, e.ReadsBack := by
  rw [LedgerFile.readAll, lines_fileOf, LedgerFile.entriesOf_eq_ok_iff]
  constructor
  · rintro ⟨hlegible, hentries⟩
    induction entries with
    | nil => simp
    | cons e entries ih =>
        rw [List.map_cons, List.forall_mem_cons] at hlegible
        obtain ⟨link, hlink⟩ := hlegible.1.resolve_left e.not_blank_lineBytes
        rw [List.map_cons, List.filterMap_cons_some hlink, List.map_cons, List.cons.injEq]
          at hentries
        rw [List.forall_mem_cons]
        exact ⟨LedgerEntry.readsBack_of_ofLine? hlink hentries.1, ih hlegible.2 hentries.2⟩
  · intro hback
    refine ⟨legible_lineBytes hback, ?_⟩
    rw [filterMap_lineBytes hback, List.map_map]
    exact List.map_id _

/-- If the writes succeed, the file is what it was and then that of the entries that were
recorded. -/
theorem content_run_behind (before : Bytes) (attempts : List Attempt)
    (hcontent : journal.content = before ++ fileOf journal.recorded)
    (hpending : journal.ledger.pending = []) (hwritten : ∀ a ∈ attempts, a.fault = none) :
    (journal.run hash attempts).content =
      before ++ fileOf (journal.run hash attempts).recorded := by
  induction attempts generalizing journal with
  | nil => exact hcontent
  | cons a attempts ih =>
      obtain ⟨ha, hattempts⟩ := List.forall_mem_cons.mp hwritten
      refine ih ?_ (Journal.pending_of_written ha) hattempts
      rw [Journal.attempt_of_written ha, ← Journal.content_of_pending hpending, fileOf_append,
        hcontent]
      simp [fileOf, ofLines]

theorem content_run_of_written (attempts : List Attempt)
    (hcontent : journal.content = fileOf journal.recorded)
    (hpending : journal.ledger.pending = []) (hwritten : ∀ a ∈ attempts, a.fault = none) :
    (journal.run hash attempts).content = fileOf (journal.run hash attempts).recorded :=
  content_run_behind [] attempts hcontent hpending hwritten

/-! ## Two entries -/

/-- An event of one organisation, with a number in its payload. -/
def numbered (n : Nat) : Attempt where
  record := { orgId := ⟨1⟩, action := .decisionTraceRecorded, payload := .object [("n", .nat n)] }
  stamp := default

/-- The entry of the first event. -/
def firstEntry : LedgerEntry := Journal.entry {} (numbered 1)

/-- The entry of the second event, behind the first. -/
def secondEntry : LedgerEntry :=
  (Journal.attempt Digest.hex {} (numbered 1)).entry (numbered 2)

theorem recorded_first : (Journal.run Digest.hex {} [numbered 1]).recorded = [firstEntry] := rfl

theorem recorded_both :
    (Journal.run Digest.hex {} [numbered 1, numbered 2]).recorded = [firstEntry, secondEntry] :=
  rfl

theorem content_both :
    (Journal.run Digest.hex {} [numbered 1, numbered 2]).content =
      fileOf [firstEntry, secondEntry] := by
  rw [← recorded_both]
  apply content_run_of_written _ rfl rfl
  simp [numbered]

theorem numbered_readsBack {n : Nat} (hn : n ≤ wordMax) :
    ∀ number ∈ (Json.Value.object [("n", .nat n)]).numbers, number.ReadsBack := by
  intro number hnumber
  obtain rfl : number = .int n := by
    simpa [Json.Value.numbers, Json.Value.memberNumbers, Json.Value.nat] using hnumber
  exact Json.Number.int_readsBack (by simp only [lowestInt]; omega) (by exact_mod_cast hn)

theorem readsBack_numbered {e : LedgerEntry} {n : Nat} (hseq : e.seq ≤ wordMax)
    (htime : e.timestamp = default) (hpayload : e.payload = .object [("n", .nat n)])
    (hn : n ≤ wordMax) : e.ReadsBack := by
  apply LedgerEntry.readsBack_of_payload hseq
  · rw [htime]
    decide +kernel
  · rw [hpayload]
    rfl
  · rw [hpayload]
    change 1 < Json.maxDepth
    decide
  · rw [hpayload]
    exact numbered_readsBack hn

theorem firstEntry_readsBack : firstEntry.ReadsBack :=
  readsBack_numbered (by decide) rfl rfl (by decide)

theorem secondEntry_readsBack : secondEntry.ReadsBack :=
  readsBack_numbered (by decide) rfl rfl (by decide)

/-- An event of another organisation. -/
def elsewhere : Attempt where
  record := { (numbered 1).record with orgId := ⟨2⟩ }
  stamp := default

/-- The entry of that event, the first one of its organisation. -/
def otherEntry : LedgerEntry := Journal.entry {} elsewhere

theorem otherEntry_readsBack : otherEntry.ReadsBack :=
  readsBack_numbered (by decide) rfl rfl (by decide)

theorem verifies_first :
    ∃ scan, LedgerFile.scan Digest.hex (fileOf [firstEntry]) = .ok scan := by
  have hchained : Chained Digest.hex (Journal.run Digest.hex {} [numbered 1]).ledger.chains
      [firstEntry] := recorded_first ▸ Chained.start.run _
  apply hchained.verifies
  rw [List.forall_mem_singleton]
  exact firstEntry_readsBack

theorem verifies_both :
    ∃ scan, LedgerFile.scan Digest.hex (fileOf [firstEntry, secondEntry]) = .ok scan := by
  have hchained : Chained Digest.hex
      (Journal.run Digest.hex {} [numbered 1, numbered 2]).ledger.chains
      [firstEntry, secondEntry] := recorded_both ▸ Chained.start.run _
  apply hchained.verifies
  rw [List.forall_mem_cons, List.forall_mem_singleton]
  exact ⟨firstEntry_readsBack, secondEntry_readsBack⟩

end Mandate
