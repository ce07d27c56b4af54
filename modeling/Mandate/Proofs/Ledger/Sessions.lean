import Mandate.Proofs.Ledger.Appends
import Mandate.Proofs.Time.Timestamp
import Mathlib.Data.List.Induction

/-! # Sessions of a ledger

A ledger is opened, records are appended, and it is closed, as often as one likes. As long as the
writes succeed, the file is that of the entries that were recorded, and opening it recovers the
very chains with which the last session ended. So a number of sessions is as good as a single one.
-/

namespace Mandate

open Mandate.Text Mandate.Json

variable {hash : String → String} {journal : Journal} {a : Attempt}

/-! ## Places in a chain -/

/-- Every entry of a chain has the next number, and names the hash of the line before it. -/
theorem Linked.place {before after : List Link} {link : Link}
    (hlinked : Linked hash none (before ++ link :: after)) :
    link.entry.seq = before.length + 1 ∧
      link.entry.previousHash = before.getLast?.map fun last => hash last.line := by
  -- the number of a link is one more than that of the link before it
  induction before using List.reverseRecOn generalizing link after with
  | nil =>
      obtain ⟨⟨hhash, hseq⟩, -⟩ := hlinked
      exact ⟨hseq, hhash⟩
  | append_singleton before last ih =>
      rw [linked_append_iff, lastHead_concat] at hlinked
      obtain ⟨hbefore, ⟨hhash, hseq⟩, -⟩ := hlinked
      have hlast : last.entry.seq = before.length + 1 := (ih hbefore).1
      constructor
      · rw [hseq, List.length_append, List.length_singleton, ← hlast]
        rfl
      · rw [hhash, List.getLast?_concat]
        rfl

/-- No number in a chain is larger than the number of all entries. -/
theorem Chained.seq_le {chains : Chains} {entries : List LedgerEntry} {e : LedgerEntry}
    (hchained : Chained hash chains entries) (he : e ∈ entries) : e.seq ≤ entries.length := by
  have hmem : e.link ∈ linksFor e.orgId entries := by
    rw [linksFor, List.mem_filter]
    exact ⟨List.mem_map_of_mem he, decide_eq_true rfl⟩
  obtain ⟨before, after, hlinks⟩ := List.append_of_mem hmem
  have hlinked := (hchained e.orgId).2
  rw [hlinks] at hlinked
  have hlength : (linksFor e.orgId entries).length ≤ entries.length := by
    rw [← List.length_map LedgerEntry.link]
    exact List.length_filter_le _ _
  rw [hlinks, List.length_append, List.length_cons] at hlength
  have hseq : e.seq = before.length + 1 := hlinked.place.1
  omega

/-! ## Runs without failures -/

/-- The file is that of the recorded entries, nothing waits, and the chains are those that the
entries make. -/
structure Journal.Settled (hash : String → String) (journal : Journal) : Prop where
  content : journal.content = fileOf journal.recorded
  pending : journal.ledger.pending = []
  chains : journal.ledger.chains =
    Chains.extend hash {} (journal.recorded.map LedgerEntry.link)
  chained : Chained hash journal.ledger.chains journal.recorded

theorem Journal.Settled.start : Journal.Settled hash {} := ⟨rfl, rfl, rfl, Chained.start⟩

theorem Journal.Settled.attempt (hsettled : journal.Settled hash) (hwritten : a.fault = none) :
    (journal.attempt hash a).Settled hash where
  content := content_run_of_written [a] hsettled.content hsettled.pending
    (List.forall_mem_singleton.mpr hwritten)
  pending := Journal.pending_of_written hwritten
  chains := by
    rw [Journal.attempt_of_written hwritten, hsettled.chains, List.map_append,
      Chains.extend_append]
    rfl
  chained := hsettled.chained.attempt a

theorem Journal.Settled.run {attempts : List Attempt} (hsettled : journal.Settled hash)
    (hwritten : ∀ a ∈ attempts, a.fault = none) : (journal.run hash attempts).Settled hash := by
  induction attempts generalizing journal with
  | nil => exact hsettled
  | cons a attempts ih =>
      obtain ⟨ha, hattempts⟩ := List.forall_mem_cons.mp hwritten
      exact ih (hsettled.attempt ha) hattempts

/-- The entry is an answer to the append: it has the record and the stamp, and a place in the chain
besides. -/
def Attempt.AnsweredBy (a : Attempt) (e : LedgerEntry) : Prop :=
  e = .ofRecord a.record e.seq e.previousHash a.stamp

theorem exists_mem_of_forall₂ {α β : Type} {related : α → β → Prop} {as : List α} {bs : List β}
    {b : β} (hall : List.Forall₂ related as bs) (hb : b ∈ bs) : ∃ a ∈ as, related a b := by
  induction hall with
  | nil => cases hb
  | cons hfirst hrest ih =>
      rcases List.mem_cons.mp hb with rfl | hb
      · exact ⟨_, List.mem_cons_self, hfirst⟩
      · obtain ⟨a, ha, hab⟩ := ih hb
        exact ⟨a, List.mem_cons_of_mem _ ha, hab⟩

/-- Every append that succeeds is answered. -/
theorem Journal.run_answered (hash : String → String) (journal : Journal) {attempts : List Attempt}
    (hwritten : ∀ a ∈ attempts, a.fault = none) :
    ∃ more, (journal.run hash attempts).recorded = journal.recorded ++ more ∧
      List.Forall₂ Attempt.AnsweredBy attempts more := by
  induction attempts generalizing journal with
  | nil => exact ⟨[], (List.append_nil _).symm, .nil⟩
  | cons a attempts ih =>
      obtain ⟨ha, hattempts⟩ := List.forall_mem_cons.mp hwritten
      obtain ⟨more, hmore, hanswered⟩ := ih (journal.attempt hash a) hattempts
      refine ⟨journal.entry a :: more, ?_, .cons rfl hanswered⟩
      have hfirst : (journal.attempt hash a).recorded = journal.recorded ++ [journal.entry a] := by
        rw [Journal.attempt_of_written ha]
      rw [hfirst, List.append_assoc] at hmore
      exact hmore

/-- A settled journal with entries that are read back is opened as the ledger that it is. -/
theorem Journal.Settled.scan (hsettled : journal.Settled hash)
    (hback : ∀ e ∈ journal.recorded, e.ReadsBack) :
    LedgerFile.scan hash journal.content =
      .ok ⟨journal.recorded.length, journal.ledger.chains⟩ := by
  obtain ⟨scan, hscan⟩ := hsettled.chained.verifies hback
  rw [hsettled.content, hscan]
  rw [LedgerFile.scan, lines_fileOf] at hscan
  rw [LedgerFile.eq_of_scanFrom_eq_ok hscan, filterMap_lineBytes hback, hsettled.chains]
  simp

theorem Journal.Settled.openFile (hsettled : journal.Settled hash)
    (hback : ∀ e ∈ journal.recorded, e.ReadsBack) :
    Ledger.openFile hash (some journal.content) = .ok journal.ledger := by
  have hledger : journal.ledger = { chains := journal.ledger.chains } := by
    rw [← hsettled.pending]
  rw [Ledger.openFile, hsettled.scan hback, hledger]
  rfl

/-! ## Sessions -/

/-- Open the ledger of a file, which need not be there yet, append records, and close it. -/
def Journal.session (hash : String → String) (file : Option Journal) (attempts : List Attempt) :
    Except AuditError (Option Journal) := do
  let ledger ← Ledger.openFile hash (file.map (·.content))
  return some ({ file.getD {} with ledger }.run hash attempts)

/-- Sessions one after the other, all of one file. -/
def Journal.sessions (hash : String → String) (file : Option Journal)
    (sessions : List (List Attempt)) : Except AuditError (Option Journal) :=
  sessions.foldlM (session hash) file

/-- An append with nothing out of the ordinary: it is written, at a valid time, with a payload whose
members are in order, which leaves room for the entry around it and whose numbers are read back. -/
structure Attempt.Ordinary (a : Attempt) : Prop where
  written : a.fault = none
  time : a.stamp.time.Valid
  sorted : a.record.payload.sorted = a.record.payload
  nesting : a.record.payload.nesting ≤ 126
  numbers : ∀ n ∈ a.record.payload.numbers, n.ReadsBack

theorem Attempt.AnsweredBy.readsBack {e : LedgerEntry} (hanswered : a.AnsweredBy e)
    (hordinary : a.Ordinary) (hseq : e.seq ≤ wordMax) : e.ReadsBack := by
  have htime : e.timestamp = a.stamp.time := congrArg LedgerEntry.timestamp hanswered
  have hpayload : e.payload = a.record.payload := congrArg LedgerEntry.payload hanswered
  apply LedgerEntry.readsBack_of_payload hseq
  · rw [htime]
    exact hordinary.time.ofText?_text
  · rw [hpayload]
    exact hordinary.sorted
  · rw [hpayload]
    exact Nat.lt_succ_of_le hordinary.nesting
  · rw [hpayload]
    exact hordinary.numbers

variable {attempts : List Attempt}

/-- Ordinary appends are read back, as many as there are numbers for. -/
theorem Journal.run_readsBack (hash : String → String) (hordinary : ∀ a ∈ attempts, a.Ordinary)
    (hcount : attempts.length ≤ wordMax) :
    ∀ e ∈ (Journal.run hash {} attempts).recorded, e.ReadsBack := by
  obtain ⟨more, hrecorded, hanswered⟩ :=
    Journal.run_answered hash {} fun a ha => (hordinary a ha).written
  rw [List.nil_append] at hrecorded
  have hchained : Chained hash (Journal.run hash {} attempts).ledger.chains more :=
    hrecorded ▸ Chained.start.run attempts
  intro e he
  rw [hrecorded] at he
  obtain ⟨a, ha, hae⟩ := exists_mem_of_forall₂ hanswered he
  apply hae.readsBack (hordinary a ha)
  have hseq := hchained.seq_le he
  rw [← hanswered.length_eq] at hseq
  exact hseq.trans hcount

/-- What a ledger is after ordinary appends: the file verifies with as many entries as there were
appends, and the entries with which they were answered are read from it in order; on the lines of
every organisation the numbers go up from one, and each entry names the hash of the line before it;
and opening the file gives the ledger as it is. -/
structure Journal.Lossless (hash : String → String) (attempts : List Attempt)
    (journal : Journal) : Prop where
  verifies : ∃ scan, LedgerFile.scan hash journal.content = .ok scan ∧
    scan.count = attempts.length
  answered : List.Forall₂ Attempt.AnsweredBy attempts journal.recorded
  read : LedgerFile.readAll journal.content = .ok journal.recorded
  places : ∀ {org before link after},
    linksOf org (lines journal.content) = before ++ link :: after →
      link.entry.seq = before.length + 1 ∧
        link.entry.previousHash = before.getLast?.map fun last => hash last.line
  reopened : Ledger.openFile hash (some journal.content) = .ok journal.ledger

theorem Journal.lossless_run (hordinary : ∀ a ∈ attempts, a.Ordinary)
    (hcount : attempts.length ≤ wordMax) :
    (Journal.run hash {} attempts).Lossless hash attempts := by
  have hwritten : ∀ a ∈ attempts, a.fault = none := fun a ha => (hordinary a ha).written
  have hstart : Journal.Settled hash {} := .start
  have hsettled := hstart.run hwritten
  have hback := Journal.run_readsBack hash hordinary hcount
  obtain ⟨more, hrecorded, hanswered⟩ := Journal.run_answered hash {} hwritten
  rw [List.nil_append] at hrecorded
  constructor
  · exact ⟨_, hsettled.scan hback, by rw [hrecorded, hanswered.length_eq]⟩
  · exact hrecorded ▸ hanswered
  · rw [hsettled.content, readAll_fileOf_iff]
    exact hback
  · intro org before link after hlinks
    rw [hsettled.content, lines_fileOf, linksOf_lineBytes hback] at hlinks
    have hlinked := (hsettled.chained org).2
    rw [hlinks] at hlinked
    exact hlinked.place
  · exact hsettled.openFile hback

/-- Opening and closing in between changes nothing. -/
theorem Journal.session_run {file : Option Journal} {before : List Attempt}
    (hfile : file.getD {} = Journal.run hash {} before)
    (hopen : Ledger.openFile hash (file.map (·.content)) = .ok (file.getD {}).ledger)
    (attempts : List Attempt) :
    Journal.session hash file attempts = .ok (some (Journal.run hash {} (before ++ attempts))) := by
  rw [Journal.session, hopen, Journal.run_append, ← hfile]
  rfl

theorem Journal.sessions_concat (hash : String → String) (sessions : List (List Attempt))
    (current : List Attempt) :
    Journal.sessions hash none (sessions ++ [current]) =
      (Journal.sessions hash none sessions).bind fun file => Journal.session hash file current := by
  rw [Journal.sessions, List.foldlM_append]
  simp only [List.foldlM_cons, List.foldlM_nil, bind_pure]
  rfl

/-- Sessions with ordinary appends never fail to open the file, and end as a single one would. -/
theorem Journal.sessions_eq_run (sessions : List (List Attempt)) (current : List Attempt)
    (hordinary : ∀ a ∈ sessions.flatten ++ current, a.Ordinary)
    (hcount : (sessions.flatten ++ current).length ≤ wordMax) :
    Journal.sessions hash none (sessions ++ [current]) =
      .ok (some (Journal.run hash {} (sessions.flatten ++ current))) := by
  rw [Journal.sessions_concat]
  induction sessions using List.reverseRecOn generalizing current with
  | nil => exact Journal.session_run rfl rfl current
  | append_singleton sessions last ih =>
      rw [List.flatten_append, List.flatten_singleton] at hordinary hcount ⊢
      rw [List.forall_mem_append] at hordinary
      rw [List.length_append] at hcount
      rw [Journal.sessions_concat, ih last hordinary.1 (by omega)]
      exact Journal.session_run rfl
        (Journal.lossless_run hordinary.1 (by omega)).reopened current

/-- After every append of every session on a fresh path, the file verifies with as many entries as
were appended, the entries that were answered are read from it in order, each organisation has its
chain on the lines, and the chains in memory are those that opening the file would recover. No
session fails to open it. As for the hypotheses, appends are written, and payloads nest at most 126
levels deep and hold numbers that are read back. -/
theorem sessions_lossless (hash : String → String) (sessions : List (List Attempt))
    (current : List Attempt) (hordinary : ∀ a ∈ sessions.flatten ++ current, a.Ordinary)
    (hcount : (sessions.flatten ++ current).length ≤ wordMax) :
    ∃ journal, Journal.sessions hash none (sessions ++ [current]) = .ok (some journal) ∧
      journal.Lossless hash (sessions.flatten ++ current) :=
  ⟨_, Journal.sessions_eq_run sessions current hordinary hcount,
    Journal.lossless_run hordinary hcount⟩

theorem valid_default : (default : Time.Timestamp).Valid := ⟨by decide, Or.inl (by decide)⟩

theorem ordinary_numbered {n : Nat} (hn : n ≤ wordMax) : (numbered n).Ordinary where
  written := rfl
  time := valid_default
  sorted := rfl
  nesting := by
    change 1 ≤ 126
    decide
  numbers := numbered_readsBack hn

theorem ordinary_elsewhere : elsewhere.Ordinary := by
  have hnumbered : (numbered 1).Ordinary := ordinary_numbered (by decide)
  exact ⟨rfl, hnumbered.time, hnumbered.sorted, hnumbered.nesting, hnumbered.numbers⟩

/-- Two sessions, the second with an append of another organisation. -/
theorem two_sessions_lossless :
    (∀ a ∈ [[numbered 1]].flatten ++ [elsewhere, numbered 2], a.Ordinary) ∧
    ([[numbered 1]].flatten ++ [elsewhere, numbered 2]).length ≤ wordMax ∧
    ∃ journal, Journal.sessions Digest.hex none ([[numbered 1]] ++ [[elsewhere, numbered 2]]) =
        .ok (some journal) ∧
      journal.Lossless Digest.hex ([[numbered 1]].flatten ++ [elsewhere, numbered 2]) := by
  have hordinary : ∀ a ∈ [[numbered 1]].flatten ++ [elsewhere, numbered 2], a.Ordinary := by
    have hone : (numbered 1).Ordinary := ordinary_numbered (by decide)
    have htwo : (numbered 2).Ordinary := ordinary_numbered (by decide)
    simp [hone, htwo, ordinary_elsewhere]
  have hcount : ([[numbered 1]].flatten ++ [elsewhere, numbered 2]).length ≤ wordMax := by decide
  exact ⟨hordinary, hcount, sessions_lossless Digest.hex [[numbered 1]] [elsewhere, numbered 2]
    hordinary hcount⟩

end Mandate
