import Mandate.Proofs.Ledger.Tampering
import Mathlib.Data.List.Induction

/-! # What the head of a chain commits to

The head of a chain holds the hash of its last line, this line holds the hash of the one before it,
and so on back to the first line, which is the only one that names no hash. So the head of an
organisation determines all its lines and their order, as far as the hash tells these lines apart.
It says nothing about the lines of others that stand in between.
-/

namespace Mandate

open Mandate.Text

variable {hash : String → String} {org : Uuid} {lines lines' : List Bytes}

/-- The lines that hold the entries of an organisation, as they stand in a file. -/
def linesOf (org : Uuid) (lines : List Bytes) : List Bytes :=
  lines.filter fun line => (Link.ofLine? line).any (·.entry.orgId = org)

theorem linesOf_eq_map (org : Uuid) (lines : List Bytes) :
    linesOf org lines = (linksOf org lines).map (utf8 ·.line) := by
  induction lines with
  | nil => rfl
  | cons line rest ih =>
      rw [linesOf] at ih ⊢
      cases hlink : Link.ofLine? line with
      | none => simp [linksOf_cons_of_none org hlink, hlink, ih]
      | some link =>
          have hbytes : utf8 link.line = line :=
            utf8_of_ofUtf8? (Link.ofLine?_eq_some_iff.mp hlink).1
          rw [linksOf_cons_of_some org hlink]
          by_cases horg : link.entry.orgId = org <;> simp [hlink, horg, hbytes, ih]

theorem linksOf_eq_filterMap (org : Uuid) (lines : List Bytes) :
    linksOf org lines = (linesOf org lines).filterMap Link.ofLine? := by
  induction lines with
  | nil => rfl
  | cons line rest ih =>
      rw [linesOf] at ih ⊢
      cases hlink : Link.ofLine? line with
      | none => simp [linksOf_cons_of_none org hlink, hlink, ih]
      | some link =>
          rw [linksOf_cons_of_some org hlink]
          by_cases horg : link.entry.orgId = org <;> simp [hlink, horg, ih]

theorem exists_ofLine?_of_mem_linksOf {link : Link} (hmem : link ∈ linksOf org lines) :
    ∃ line ∈ linesOf org lines, Link.ofLine? line = some link := by
  obtain ⟨hlink, horg⟩ := List.mem_filter.mp hmem
  obtain ⟨line, hline, hlink⟩ := List.mem_filterMap.mp hlink
  refine ⟨line, List.mem_filter.mpr ⟨hline, ?_⟩, hlink⟩
  simpa [hlink] using horg

theorem Continues.unique {head head' : Option Head} {entry : LedgerEntry}
    (hcontinues : Continues head entry) (hcontinues' : Continues head' entry) : head = head' := by
  obtain ⟨hhash, hseq⟩ := hcontinues
  obtain ⟨hhash', hseq'⟩ := hcontinues'
  rw [hhash] at hhash'
  rw [hseq] at hseq'
  -- only the first entry of a chain names no hash
  cases head with
  | none =>
      cases head' with
      | none => rfl
      | some head' => cases hhash'
  | some head =>
      cases head' with
      | none => cases hhash'
      | some head' =>
          obtain ⟨seq, text⟩ := head
          obtain ⟨seq', text'⟩ := head'
          simp_all

/-- Chains that end with the same head are the same. -/
theorem eq_of_lastHead_eq {links links' : List Link} (hlinked : Linked hash none links)
    (hlinked' : Linked hash none links')
    (hhash : ∀ link ∈ links, ∀ link' ∈ links',
      hash link.line = hash link'.line → link = link')
    (hhead : lastHead hash none links = lastHead hash none links') : links = links' := by
  -- backwards along the hashes, from the last links to the first ones
  induction links using List.reverseRecOn generalizing links' with
  | nil =>
      cases links' using List.reverseRecOn with
      | nil => rfl
      | append_singleton rest' link' =>
          rw [lastHead_concat] at hhead
          cases hhead
  | append_singleton rest link ih =>
      cases links' using List.reverseRecOn with
      | nil =>
          rw [lastHead_concat] at hhead
          cases hhead
      | append_singleton rest' link' =>
          rw [lastHead_concat, lastHead_concat, Option.some.injEq] at hhead
          obtain rfl : link = link' :=
            hhash link (by simp) link' (by simp) (congrArg Head.hash hhead)
          rw [linked_append_iff] at hlinked hlinked'
          have hbefore : lastHead hash none rest = lastHead hash none rest' :=
            hlinked.2.1.unique hlinked'.2.1
          have hrest : rest = rest' := by
            apply ih hlinked.1 hlinked'.1 _ hbefore
            intro link hlink link' hlink'
            exact hhash link (List.mem_append_left _ hlink) link' (List.mem_append_left _ hlink')
          rw [hrest]

/-- Two scans that come to their ends find the same head for an organisation exactly if its lines
are the same, byte for byte and in the same order, in both. The hash need only tell apart the lines
of this organisation. -/
theorem same_head_iff_same_lines {scan scan' : Chains.Scan}
    (hscan : LedgerFile.scanFrom hash {} 1 lines = .ok scan)
    (hscan' : LedgerFile.scanFrom hash {} 1 lines' = .ok scan')
    (hhash : HashesApart hash (linesOf org lines ++ linesOf org lines')) :
    scan.chains.head? org = scan'.chains.head? org ↔ linesOf org lines = linesOf org lines' := by
  have hlinked := (accepted_iff.mp ⟨scan, hscan⟩).2 org
  have hlinked' := (accepted_iff.mp ⟨scan', hscan'⟩).2 org
  rw [LedgerFile.head?_of_scanFrom hscan, LedgerFile.head?_of_scanFrom hscan']
  constructor
  · intro hhead
    rw [linesOf_eq_map, linesOf_eq_map, eq_of_lastHead_eq hlinked hlinked' _ hhead]
    intro link hlink link' hlink' hsame
    obtain ⟨line, hline, hheld⟩ := exists_ofLine?_of_mem_linksOf hlink
    obtain ⟨line', hline', hheld'⟩ := exists_ofLine?_of_mem_linksOf hlink'
    have htext := (Link.ofLine?_eq_some_iff.mp hheld).1
    have htext' := (Link.ofLine?_eq_some_iff.mp hheld').1
    exact Link.eq_of_line_eq hheld hheld' (hhash ⟨line, List.mem_append_left _ hline, htext⟩
      ⟨line', List.mem_append_right _ hline', htext'⟩ hsame)
  · intro hsame
    rw [linksOf_eq_filterMap, linksOf_eq_filterMap, hsame]

theorem accepted_first_other :
    Accepted Digest.hex [firstEntry.lineBytes, otherEntry.lineBytes] := by
  have hchained : Chained Digest.hex
      (Journal.run Digest.hex {} [numbered 1, elsewhere]).ledger.chains
      [firstEntry, otherEntry] := Chained.start.run [numbered 1, elsewhere]
  apply hchained.accepted
  simp [firstEntry_readsBack, otherEntry_readsBack]

theorem accepted_other_first :
    Accepted Digest.hex [otherEntry.lineBytes, firstEntry.lineBytes] := by
  have hchained : Chained Digest.hex
      (Journal.run Digest.hex {} [elsewhere, numbered 1]).ledger.chains
      [otherEntry, firstEntry] := Chained.start.run [elsewhere, numbered 1]
  apply hchained.accepted
  simp [firstEntry_readsBack, otherEntry_readsBack]

theorem linksOf_first_other :
    linksOf ⟨1⟩ [firstEntry.lineBytes, otherEntry.lineBytes] = [firstEntry.link] := by
  rw [linksOf_cons_of_some _ firstEntry_readsBack.ofLine?,
    linksOf_cons_of_some _ otherEntry_readsBack.ofLine?]
  rfl

theorem linksOf_other_first :
    linksOf ⟨1⟩ [otherEntry.lineBytes, firstEntry.lineBytes] = [firstEntry.link] := by
  rw [linksOf_cons_of_some _ otherEntry_readsBack.ofLine?,
    linksOf_cons_of_some _ firstEntry_readsBack.ofLine?]
  rfl

/-- Two files that differ in where the line of another organisation stands. -/
theorem interleaved_lines_same : ∃ scan scan',
    LedgerFile.scanFrom Digest.hex {} 1 [firstEntry.lineBytes, otherEntry.lineBytes] = .ok scan ∧
    LedgerFile.scanFrom Digest.hex {} 1 [otherEntry.lineBytes, firstEntry.lineBytes] = .ok scan' ∧
    scan.chains.head? ⟨1⟩ = some ⟨1, Digest.hex firstEntry.line⟩ ∧
    scan'.chains.head? ⟨1⟩ = some ⟨1, Digest.hex firstEntry.line⟩ ∧
    linesOf ⟨1⟩ [firstEntry.lineBytes, otherEntry.lineBytes] =
      linesOf ⟨1⟩ [otherEntry.lineBytes, firstEntry.lineBytes] := by
  obtain ⟨scan, hscan⟩ := accepted_first_other
  obtain ⟨scan', hscan'⟩ := accepted_other_first
  have hhead : scan.chains.head? ⟨1⟩ = some ⟨1, Digest.hex firstEntry.line⟩ := by
    rw [LedgerFile.head?_of_scanFrom hscan, linksOf_first_other]
    rfl
  have hhead' : scan'.chains.head? ⟨1⟩ = some ⟨1, Digest.hex firstEntry.line⟩ := by
    rw [LedgerFile.head?_of_scanFrom hscan', linksOf_other_first]
    rfl
  have hhash : HashesApart Digest.hex
      (linesOf ⟨1⟩ [firstEntry.lineBytes, otherEntry.lineBytes] ++
        linesOf ⟨1⟩ [otherEntry.lineBytes, firstEntry.lineBytes]) := by
    rw [linesOf_eq_map, linesOf_eq_map, linksOf_first_other, linksOf_other_first]
    apply hashesApart_of_forall_eq (utf8 firstEntry.link.line)
    simp
  exact ⟨scan, scan', hscan, hscan', hhead, hhead',
    (same_head_iff_same_lines hscan hscan' hhash).mp (hhead.trans hhead'.symm)⟩

end Mandate
