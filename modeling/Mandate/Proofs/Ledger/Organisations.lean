import Mandate.Proofs.Fallible
import Mandate.Proofs.Ledger.Commitment

/-! # One scan for all organisations

A scan goes through the file once, with the lines of all organisations in between one another. It
finds what one would find by looking at every organisation on its own: the entries are numbered from
one on, and each names the hash of the line before it. So it does not matter how the lines of
different organisations are interleaved. When a scan fails, it is with the first line that does not
come next in its chain, and what is wrong with this line can be told from the lines before it.
-/

namespace Mandate

open Mandate.Text

variable {hash : String → String} {links : List Link} {lines before : List Bytes} {line : Bytes}

/-! ## The chain of one organisation -/

/-- The entries are numbered from one on. The first one names no hash, and every other one the hash
of the line before it. -/
structure InSequence (hash : String → String) (links : List Link) : Prop where
  numbered : ∀ i link, links[i]? = some link → link.entry.seq = i + 1
  first : ∀ link, links[0]? = some link → link.entry.previousHash = none
  later : ∀ i previous link, links[i]? = some previous → links[i + 1]? = some link →
    link.entry.previousHash = some (hash previous.line)

/-- A chain is linked if every entry continues the links before it. -/
theorem linked_iff_forall_continues {head : Option Head} : Linked hash head links ↔
    ∀ i link, links[i]? = some link →
      Continues (lastHead hash head (links.take i)) link.entry := by
  induction links generalizing head with
  | nil => simp [Linked]
  | cons first rest ih =>
      rw [Linked, ih]
      constructor
      · rintro ⟨hfirst, hrest⟩ i link hlink
        cases i with
        | zero =>
            obtain rfl : first = link := by simpa using hlink
            exact hfirst
        | succ i => exact hrest i link (by simpa using hlink)
      · intro hall
        exact ⟨hall 0 first rfl, fun i link hlink => hall (i + 1) link (by simpa using hlink)⟩

theorem lastHead_take {head : Option Head} {i : Nat} {link : Link}
    (hlink : links[i]? = some link) :
    lastHead hash head (links.take (i + 1)) = some (link.head hash) := by
  rw [List.take_add_one, hlink, Option.toList_some, lastHead_concat]

/-- The head of a chain names the hash of its last line. -/
theorem lastHead_none (hash : String → String) (links : List Link) :
    lastHead hash none links = links.getLast?.map (·.head hash) := by
  induction links using List.reverseRecOn with
  | nil => rfl
  | append_singleton rest link _ => rw [lastHead_concat, List.getLast?_concat, Option.map_some]

/-- The head of a chain has the number of links as its number. -/
theorem Linked.seq_lastHead (hlinked : Linked hash none links) :
    ((lastHead hash none links).map (·.seq)).getD 0 = links.length := by
  induction links using List.reverseRecOn with
  | nil => rfl
  | append_singleton rest link ih =>
      obtain ⟨hrest, hlink, -⟩ := linked_append_iff.mp hlinked
      have hseq := hlink.2
      rw [ih hrest] at hseq
      rw [lastHead_concat, List.length_append, List.length_singleton]
      exact hseq

theorem Linked.take (hlinked : Linked hash none links) (i : Nat) :
    Linked hash none (links.take i) := by
  rw [← List.take_append_drop i links, linked_append_iff] at hlinked
  exact hlinked.1

theorem linked_iff_inSequence : Linked hash none links ↔ InSequence hash links := by
  constructor
  · intro hlinked
    have hcontinues := linked_iff_forall_continues.mp hlinked
    refine ⟨fun i link hlink => ?_, fun link hlink => (hcontinues 0 link hlink).1, ?_⟩
    · obtain ⟨hlt, -⟩ := List.getElem?_eq_some_iff.mp hlink
      have hseq := (hcontinues i link hlink).2
      rw [(hlinked.take i).seq_lastHead, List.length_take_of_le hlt.le] at hseq
      exact hseq
    · intro i previous link hprevious hlink
      have hhash := (hcontinues (i + 1) link hlink).1
      rw [lastHead_take hprevious] at hhash
      exact hhash
  · intro hsequence
    refine linked_iff_forall_continues.mpr fun i link hlink => ?_
    have hseq := hsequence.numbered i link hlink
    cases i with
    | zero => exact ⟨hsequence.first link hlink, hseq⟩
    | succ i =>
        obtain ⟨previous, hprevious⟩ : ∃ previous, links[i]? = some previous := by
          obtain ⟨hlt, -⟩ := List.getElem?_eq_some_iff.mp hlink
          exact ⟨_, List.getElem?_eq_getElem (Nat.lt_of_succ_lt hlt)⟩
        rw [lastHead_take hprevious]
        refine ⟨hsequence.later i previous link hprevious hlink, ?_⟩
        rw [hseq, ← hsequence.numbered i previous hprevious]
        rfl

/-! ## Blank lines -/

/-- Whether a line is blank. -/
def isBlankLine (line : Bytes) : Bool := (ofUtf8? line).any isBlankText

theorem isBlankLine_iff : isBlankLine line = true ↔ BlankLine line := by
  simp [isBlankLine, BlankLine, Option.any_eq_true]

/-- Lines that can be read hold as many links as they are not blank. -/
theorem length_links_eq_countP (hlegible : ∀ line ∈ lines, LegibleLine line) :
    (lines.filterMap Link.ofLine?).length = lines.countP fun line => !isBlankLine line := by
  induction lines with
  | nil => rfl
  | cons line rest ih =>
      obtain ⟨hline, hrest⟩ := List.forall_mem_cons.mp hlegible
      rcases hline with hblank | ⟨link, hlink⟩
      · rw [List.filterMap_cons_none hblank.ofLine?_eq, ih hrest,
          List.countP_cons_of_neg (by simp [isBlankLine_iff.mpr hblank])]
      · have hfilled : isBlankLine line = false := by
          rw [← Bool.not_eq_true, isBlankLine_iff]
          intro hblank
          cases hlink.symm.trans hblank.ofLine?_eq
        rw [List.filterMap_cons_some hlink, List.length_cons, ih hrest,
          List.countP_cons_of_pos (by simp [hfilled])]

/-! ## What is wrong with a line -/

/-- Why an entry at the line with a number is not accepted, if a hash and a sequence number are
expected of it: the hash is looked at first. -/
inductive Rejects (number : Nat) (hash : Option String) (seq : Nat) (entry : LedgerEntry) :
    AuditError → Prop where
  | hash (hhash : entry.previousHash ≠ hash) :
      Rejects number hash seq entry
        (.integrityViolation number entry.orgId hash entry.previousHash)
  | seq (hhash : entry.previousHash = hash) (hseq : entry.seq ≠ seq) :
      Rejects number hash seq entry (.sequenceGap number entry.orgId seq entry.seq)

/-- What is wrong with a line behind others: it is no text, or it is not blank and cannot be read,
or its entry is not the one that is expected after the lines of its organisation. -/
inductive Offence (hash : String → String) (before : List Bytes) (line : Bytes) :
    AuditError → Prop where
  | notText (hnone : ofUtf8? line = none) : Offence hash before line (.writeFailed .notText)
  | unreadable {text : String} (htext : ofUtf8? line = some text)
      (hfilled : isBlankText text = false)
      (hunread : ∀ entry, Chains.readEntry text ≠ .ok entry) :
      Offence hash before line .malformedEntry
  | rejected {link : Link} {e : AuditError} (hlink : Link.ofLine? line = some link)
      (hrejects : Rejects (before.length + 1)
        ((linksOf link.entry.orgId before).getLast?.map fun previous => hash previous.line)
        ((linksOf link.entry.orgId before).length + 1) link.entry e) :
      Offence hash before line e

namespace Offence

variable {e : AuditError} {link : Link}

theorem iff_of_no_text (hnone : ofUtf8? line = none) :
    Offence hash before line e ↔ e = .writeFailed .notText := by
  constructor
  · intro hoffence
    cases hoffence with
    | notText _ => rfl
    | unreadable htext _ _ => cases hnone.symm.trans htext
    | rejected hlink _ => cases hnone.symm.trans (Link.ofLine?_eq_some_iff.mp hlink).1
  · rintro rfl
    exact .notText hnone

/-- Nothing is wrong with a blank line. -/
theorem not_of_blank (hblank : BlankLine line) : ¬ Offence hash before line e := by
  obtain ⟨text, htext, hblankText⟩ := hblank
  intro hoffence
  cases hoffence with
  | notText hnone => cases hnone.symm.trans htext
  | unreadable htext' hfilled _ =>
      obtain rfl := Option.some.inj (htext.symm.trans htext')
      cases hfilled.symm.trans hblankText
  | rejected hlink _ => cases (BlankLine.ofLine?_eq ⟨text, htext, hblankText⟩).symm.trans hlink

theorem iff_of_unread {text : String} (htext : ofUtf8? line = some text)
    (hfilled : isBlankText text = false) (hunread : ∀ entry, Chains.readEntry text ≠ .ok entry) :
    Offence hash before line e ↔ e = .malformedEntry := by
  constructor
  · intro hoffence
    cases hoffence with
    | notText hnone => cases hnone.symm.trans htext
    | unreadable _ _ _ => rfl
    | rejected hlink _ =>
        obtain ⟨hline, -, hread⟩ := Link.ofLine?_eq_some_iff.mp hlink
        obtain rfl := Option.some.inj (htext.symm.trans hline)
        exact absurd hread (hunread _)
  · rintro rfl
    exact .unreadable htext hfilled hunread

theorem iff_of_link (hlink : Link.ofLine? line = some link) :
    Offence hash before line e ↔ Rejects (before.length + 1)
      ((linksOf link.entry.orgId before).getLast?.map fun previous => hash previous.line)
      ((linksOf link.entry.orgId before).length + 1) link.entry e := by
  refine ⟨fun hoffence => ?_, .rejected hlink⟩
  obtain ⟨hline, -, hread⟩ := Link.ofLine?_eq_some_iff.mp hlink
  cases hoffence with
  | notText hnone => cases hnone.symm.trans hline
  | unreadable htext _ hunread =>
      obtain rfl := Option.some.inj (htext.symm.trans hline)
      exact absurd hread (hunread _)
  | rejected hlink' hrejects =>
      obtain rfl := Option.some.inj (hlink.symm.trans hlink')
      exact hrejects

end Offence

/-! ## The first line that is not accepted -/

namespace Chains

variable {chains : Chains} {number : Nat} {e : AuditError} {text : String}

theorem eq_malformedEntry_of_readEntry (hread : readEntry text = .error e) :
    e = .malformedEntry := by
  unfold readEntry at hread
  split at hread
  · cases hread
  · cases hread
    rfl

theorem accept_eq_error_iff {entry : LedgerEntry} (hread : readEntry text = .ok entry) :
    chains.accept hash number text = .error e ↔
      Rejects number (chains.nextHash entry.orgId) (chains.nextSeq entry.orgId) entry e := by
  rw [accept, Fallible.bind_of_ok hread]
  dsimp only
  by_cases hhash : entry.previousHash = chains.nextHash entry.orgId
  · rw [if_neg (not_not_intro hhash)]
    by_cases hseq : entry.seq = chains.nextSeq entry.orgId
    · rw [if_neg (not_not_intro hseq)]
      refine ⟨nofun, fun hrejects => ?_⟩
      cases hrejects with
      | hash hwrong => exact absurd hhash hwrong
      | seq _ hwrong => exact absurd hseq hwrong
    · rw [if_pos hseq]
      constructor
      · rintro ⟨⟩
        exact .seq hhash hseq
      · intro hrejects
        cases hrejects with
        | hash hwrong => exact absurd hhash hwrong
        | seq _ _ => rfl
  · rw [if_pos hhash]
    constructor
    · rintro ⟨⟩
      exact .hash hhash
    · intro hrejects
      cases hrejects with
      | hash _ => rfl
      | seq hright _ => exact absurd hright hhash

theorem nextSeq_eq (chains : Chains) (org : Uuid) :
    chains.nextSeq org = ((chains.head? org).map (·.seq)).getD 0 + 1 := by
  unfold nextSeq
  cases chains.head? org <;> rfl

end Chains

namespace LedgerFile

open Chains

variable {scan mid final : Scan} {number : Nat} {e : AuditError}

/-- What a scan does with one line of a file. -/
def scanLine (hash : String → String) (scan : Scan) (number : Nat) (line : Bytes) :
    Except AuditError Scan := do
  scan.line hash number (← lineText line)

theorem scanFrom_cons (rest : List Bytes) : scanFrom hash scan number (line :: rest) =
    scanLine hash scan number line >>= fun next => scanFrom hash next (number + 1) rest := by
  rw [scanFrom, scanLine]
  cases lineText line <;> rfl

/-- A scan fails with the first line that is not accepted. -/
theorem scanFrom_eq_error_iff : scanFrom hash scan number lines = .error e ↔
    ∃ before line after mid, lines = before ++ line :: after ∧
      scanFrom hash scan number before = .ok mid ∧
      scanLine hash mid (number + before.length) line = .error e := by
  induction lines generalizing scan number with
  | nil => simp [scanFrom]
  | cons first rest ih =>
      rw [scanFrom_cons]
      constructor
      · intro hscan
        cases hfirst : scanLine hash scan number first with
        | error e' =>
            rw [hfirst] at hscan
            cases hscan
            exact ⟨[], first, rest, scan, rfl, rfl, hfirst⟩
        | ok next =>
            rw [Fallible.bind_of_ok hfirst] at hscan
            obtain ⟨before, line, after, mid, rfl, hbefore, hline⟩ := ih.mp hscan
            refine ⟨first :: before, line, after, mid, rfl, ?_, ?_⟩
            · rwa [scanFrom_cons, Fallible.bind_of_ok hfirst]
            · rwa [List.length_cons, Nat.add_comm before.length, ← Nat.add_assoc]
      · rintro ⟨before, line, after, mid, hlines, hbefore, hline⟩
        cases before with
        | nil =>
            obtain ⟨rfl, rfl⟩ := List.cons.inj hlines
            cases hbefore
            exact Fallible.bind_of_error hline
        | cons first' before =>
            obtain ⟨rfl, rfl⟩ := List.cons.inj hlines
            rw [scanFrom_cons] at hbefore
            obtain ⟨next, hfirst, hbefore⟩ := Fallible.exists_of_bind_eq_ok hbefore
            rw [Fallible.bind_of_ok hfirst]
            refine ih.mpr ⟨before, line, after, mid, rfl, hbefore, ?_⟩
            rwa [List.length_cons, Nat.add_comm before.length, ← Nat.add_assoc] at hline

/-- After lines that are accepted, an entry has to name the hash of the last line of its
organisation, and the number of these lines and one more. -/
theorem expected_after (hmid : scanFrom hash {} 1 before = .ok mid) (org : Uuid) :
    mid.chains.nextHash org =
        ((linksOf org before).getLast?.map fun previous => hash previous.line) ∧
      mid.chains.nextSeq org = (linksOf org before).length + 1 := by
  have hhead : mid.chains.head? org = lastHead hash none (linksOf org before) :=
    head?_of_scanFrom hmid org
  have hlinked := (accepted_iff.mp ⟨mid, hmid⟩).2 org
  constructor
  · rw [nextHash, hhead, lastHead_none, Option.map_map]
    rfl
  · rw [nextSeq_eq, hhead, hlinked.seq_lastHead]

/-- After lines that are accepted, a line is not accepted exactly if something is wrong with it. -/
theorem scanLine_eq_error_iff (hmid : scanFrom hash {} 1 before = .ok mid) :
    scanLine hash mid (before.length + 1) line = .error e ↔ Offence hash before line e := by
  cases htext : ofUtf8? line with
  | none =>
      have hlineText : lineText line = .error (.writeFailed .notText) := by rw [lineText, htext]
      rw [scanLine, Fallible.bind_of_error hlineText, Offence.iff_of_no_text htext,
        Except.error.injEq, eq_comm]
  | some text =>
      have hlineText : lineText line = .ok text := by rw [lineText, htext]
      rw [scanLine, Fallible.bind_of_ok hlineText, Scan.line]
      cases hblank : isBlankText text with
      | true =>
          have hnot : ¬ Offence hash before line e := Offence.not_of_blank ⟨text, htext, hblank⟩
          simp [hnot]
      | false =>
          rw [if_neg Bool.false_ne_true, Fallible.map_eq_error_iff]
          cases hread : readEntry text with
          | error e' =>
              obtain rfl := eq_malformedEntry_of_readEntry hread
              have hunread : ∀ entry, readEntry text ≠ .ok entry := by simp [hread]
              rw [Offence.iff_of_unread htext hblank hunread, accept,
                Fallible.bind_of_error hread, Except.error.injEq, eq_comm]
          | ok entry =>
              have hlink : Link.ofLine? line = some ⟨entry, text⟩ :=
                Link.ofLine?_eq_some_iff.mpr ⟨htext, hblank, hread⟩
              obtain ⟨hhash, hseq⟩ := expected_after hmid entry.orgId
              rw [Offence.iff_of_link hlink, accept_eq_error_iff hread, hhash, hseq]

end LedgerFile

/-! ## Whole files -/

/-- Lines are accepted whatever their order, as long as each organisation has its own lines in
order. -/
theorem accepted_perm {others : List Bytes} (hperm : others.Perm lines)
    (hsame : ∀ org, linksOf org others = linksOf org lines) :
    Accepted hash others ↔ Accepted hash lines := by
  simp only [accepted_iff, hperm.mem_iff, hsame]

theorem Accepted.count {scan : Chains.Scan}
    (hscan : LedgerFile.scanFrom hash {} 1 lines = .ok scan) :
    scan.count = lines.countP fun line => !isBlankLine line := by
  have hlegible := (accepted_iff.mp ⟨scan, hscan⟩).1
  rw [LedgerFile.eq_of_scanFrom_eq_ok hscan, ← length_links_eq_countP hlegible]
  exact Nat.zero_add _

theorem accepted_iff_inSequence : Accepted hash lines ↔
    (∀ line ∈ lines, isBlankLine line = false → ∃ link, Link.ofLine? line = some link) ∧
      ∀ org, InSequence hash (linksOf org lines) := by
  simp only [accepted_iff, linked_iff_inSequence, LegibleLine, ← isBlankLine_iff,
    ← Bool.not_eq_true, or_iff_not_imp_left]

/-- Whatever a file holds: its scan succeeds with the number of lines that are not blank exactly if
each of these lines holds an entry and the entries of every organisation are numbered from one on
and name the hashes of one another. It never succeeds with another number. Another file with the
same lines, in which each organisation has its lines in the same order, verifies or fails with it.
A scan fails exactly with what is wrong with the first line that is not accepted. -/
theorem scan_by_organisation (hash : String → String) (content : Bytes) :
    ((∃ scan, LedgerFile.scan hash content = .ok scan ∧
        scan.count = (Text.lines content).countP fun line => !isBlankLine line) ↔
      (∀ line ∈ Text.lines content, isBlankLine line = false →
        ∃ link, Link.ofLine? line = some link) ∧
      ∀ org, InSequence hash (linksOf org (Text.lines content))) ∧
    (∀ scan, LedgerFile.scan hash content = .ok scan →
      scan.count = (Text.lines content).countP fun line => !isBlankLine line) ∧
    (∀ other, (Text.lines other).Perm (Text.lines content) →
      (∀ org, linksOf org (Text.lines other) = linksOf org (Text.lines content)) →
      ((∃ scan, LedgerFile.scan hash other = .ok scan) ↔
        ∃ scan, LedgerFile.scan hash content = .ok scan)) ∧
    ∀ e, LedgerFile.scan hash content = .error e ↔
      ∃ before line after, Text.lines content = before ++ line :: after ∧
        (∃ scan, LedgerFile.scanFrom hash {} 1 before = .ok scan) ∧
        Offence hash before line e := by
  refine ⟨?_, fun scan hscan => Accepted.count hscan,
    fun other hperm hsame => accepted_perm hperm hsame, fun e => ?_⟩
  · rw [← accepted_iff_inSequence]
    constructor
    · rintro ⟨scan, hscan, -⟩
      exact ⟨scan, hscan⟩
    · rintro ⟨scan, hscan⟩
      exact ⟨scan, hscan, Accepted.count hscan⟩
  · rw [LedgerFile.scan, LedgerFile.scanFrom_eq_error_iff]
    constructor
    · rintro ⟨before, line, after, mid, hlines, hmid, hline⟩
      rw [Nat.add_comm] at hline
      exact ⟨before, line, after, hlines, ⟨mid, hmid⟩,
        (LedgerFile.scanLine_eq_error_iff hmid).mp hline⟩
    · rintro ⟨before, line, after, hlines, ⟨mid, hmid⟩, hoffence⟩
      refine ⟨before, line, after, mid, hlines, hmid, ?_⟩
      rw [Nat.add_comm]
      exact (LedgerFile.scanLine_eq_error_iff hmid).mpr hoffence

/-- Two entries of different organisations verify in the one order since they do in the other. -/
theorem reordered_file_verifies :
    (∃ scan, LedgerFile.scan Digest.hex (fileOf [firstEntry, otherEntry]) = .ok scan) ∧
      ∃ scan, LedgerFile.scan Digest.hex (fileOf [otherEntry, firstEntry]) = .ok scan := by
  have hfirst : ∃ scan,
      LedgerFile.scan Digest.hex (fileOf [firstEntry, otherEntry]) = .ok scan := by
    obtain ⟨scan, hscan⟩ := accepted_first_other
    refine ⟨scan, ?_⟩
    rw [LedgerFile.scan, lines_fileOf]
    exact hscan
  obtain ⟨-, -, hreordered, -⟩ :=
    scan_by_organisation Digest.hex (fileOf [firstEntry, otherEntry])
  refine ⟨hfirst, (hreordered (fileOf [otherEntry, firstEntry]) ?_ fun org => ?_).mpr hfirst⟩
  · rw [lines_fileOf, lines_fileOf]
    exact List.Perm.swap _ _ _
  · rw [lines_fileOf, lines_fileOf]
    have hfirstLink := firstEntry_readsBack.ofLine?
    have hotherLink := otherEntry_readsBack.ofLine?
    simp only [List.map_cons, List.map_nil, linksOf_cons_of_some _ hfirstLink,
      linksOf_cons_of_some _ hotherLink]
    by_cases horg : firstEntry.link.entry.orgId = org
    · have hother : otherEntry.link.entry.orgId ≠ org := horg ▸ by decide
      rw [if_pos horg, if_neg hother, if_neg hother, if_pos horg]
    · rw [if_neg horg, if_neg horg]

end Mandate
