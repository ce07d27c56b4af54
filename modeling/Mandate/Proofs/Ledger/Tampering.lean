import Mandate.Proofs.Ledger.Appends
import Mathlib.Data.Set.Function

/-! # What tampering with a line comes to

A file is tampered with by changing one line, dropping one, or slipping one in. Whatever a later
line of the same organisation goes back to is protected by its hash and its number; but nothing
goes back to the last line of an organisation. So tampering goes unnoticed exactly if no line after
it belongs to an organisation that it touches, and what stands there then continues its chain.

What this asks of the hash function is only that it tells the texts of the changed line apart.
-/

namespace Mandate

open Mandate.Text

variable {hash : String → String} {before after lines : List Bytes} {old new : Option Bytes}
  {org : Uuid}

theorem Accepted.left (haccepted : Accepted hash (before ++ after)) : Accepted hash before := by
  obtain ⟨hlegible, hlinked⟩ := accepted_iff.mp haccepted
  refine accepted_iff.mpr ⟨fun line hline => hlegible line (List.mem_append_left _ hline), ?_⟩
  intro org
  have horg := hlinked org
  rw [linksOf_append, linked_append_iff] at horg
  exact horg.1

/-- The line holds an entry of the organisation. -/
def BelongsTo (line : Bytes) (org : Uuid) : Prop :=
  ∃ link, Link.ofLine? line = some link ∧ link.entry.orgId = org

theorem linksOf_eq_nil_iff : linksOf org lines = [] ↔ ∀ line ∈ lines, ¬ BelongsTo line org := by
  simp only [linksOf, List.filter_eq_nil_iff, List.mem_filterMap, decide_eq_true_eq, BelongsTo]
  constructor
  · rintro hnone line hline ⟨link, hlink, horg⟩
    exact hnone link ⟨line, hline, hlink⟩ horg
  · rintro hnone link ⟨line, hline, hlink⟩ horg
    exact hnone line hline ⟨link, hlink, horg⟩

/-- At most one link stands in the place of at most one line. -/
theorem linksOf_toList_cases (org : Uuid) (place : Option Bytes) :
    linksOf org place.toList = [] ∨ ∃ line link, place = some line ∧
      Link.ofLine? line = some link ∧ linksOf org place.toList = [link] := by
  cases place with
  | none => exact Or.inl rfl
  | some line =>
      cases hlink : Link.ofLine? line with
      | none => exact Or.inl (by simp [linksOf, hlink])
      | some link =>
          by_cases horg : link.entry.orgId = org
          · exact Or.inr ⟨line, link, rfl, hlink, by simp [linksOf, hlink, horg]⟩
          · exact Or.inl (by simp [linksOf, hlink, horg])

/-- Lines that hold one and the same link are one and the same. -/
theorem Link.ofLine?_inj {line other : Bytes} {link : Link}
    (hline : Link.ofLine? line = some link) (hother : Link.ofLine? other = some link) :
    line = other :=
  ofUtf8?_inj (Link.ofLine?_eq_some_iff.mp hline).1 (Link.ofLine?_eq_some_iff.mp hother).1

/-- The texts of some lines have different hashes. -/
def HashesApart (hash : String → String) (lines : List Bytes) : Prop :=
  Set.InjOn hash {text | ∃ line ∈ lines, ofUtf8? line = some text}

theorem hashesApart_of_forall_eq (line : Bytes) (hsame : ∀ other ∈ lines, other = line) :
    HashesApart hash lines := by
  rintro _ ⟨other, hother, htext⟩ _ ⟨other', hother', htext'⟩ -
  rw [hsame other hother] at htext
  rw [hsame other' hother'] at htext'
  exact Option.some.inj (htext.symm.trans htext')

theorem Link.eq_of_line_eq {line other : Bytes} {link link' : Link}
    (hlink : Link.ofLine? line = some link) (hlink' : Link.ofLine? other = some link')
    (hsame : link.line = link'.line) : link = link' := by
  obtain ⟨-, -, hread⟩ := Link.ofLine?_eq_some_iff.mp hlink
  obtain ⟨-, -, hread'⟩ := Link.ofLine?_eq_some_iff.mp hlink'
  rw [hsame] at hread
  cases link
  cases link'
  obtain rfl := hsame
  obtain rfl := Except.ok.inj (hread.symm.trans hread')
  rfl

/-- What continues a chain does not continue it with one link more. -/
theorem Continues.not_after {head : Option Head} {link : Link} {entry : LedgerEntry}
    (hcontinues : Continues head entry) (hlink : Continues head link.entry) :
    ¬ Continues (some (link.head hash)) entry := by
  rintro ⟨-, hseq⟩
  have hbefore := hcontinues.2
  have hlinkSeq := hlink.2
  simp only [Link.head, Option.map_some, Option.getD_some] at hseq
  omega

/-- If an entry of an organisation continues the chain whichever of two lines is in place, the two
hold the same link of that organisation, if any. -/
theorem linksOf_eq_of_continues {entry : LedgerEntry} {head : Option Head}
    (hhash : HashesApart hash (old.toList ++ new.toList))
    (hold : Linked hash head (linksOf org old.toList))
    (hnew : Linked hash head (linksOf org new.toList))
    (hafterOld : Continues (lastHead hash head (linksOf org old.toList)) entry)
    (hafterNew : Continues (lastHead hash head (linksOf org new.toList)) entry) :
    linksOf org old.toList = linksOf org new.toList := by
  rcases linksOf_toList_cases org old with hnone | ⟨line, link, rfl, hlink, hone⟩
  · rcases linksOf_toList_cases org new with hnone' | ⟨line', link', rfl, hlink', hone'⟩
    · rw [hnone, hnone']
    · rw [hnone] at hafterOld
      rw [hone'] at hnew hafterNew
      exact absurd hafterNew (hafterOld.not_after hnew.1)
  · rcases linksOf_toList_cases org new with hnone' | ⟨line', link', rfl, hlink', hone'⟩
    · rw [hnone'] at hafterNew
      rw [hone] at hold hafterOld
      exact absurd hafterOld (hafterNew.not_after hold.1)
    · rw [hone] at hafterOld ⊢
      rw [hone'] at hafterNew ⊢
      have hhashes : hash link.line = hash link'.line :=
        Option.some.inj (hafterOld.1.symm.trans hafterNew.1)
      have hline := hhash ⟨line, by simp, (Link.ofLine?_eq_some_iff.mp hlink).1⟩
        ⟨line', by simp, (Link.ofLine?_eq_some_iff.mp hlink').1⟩ hhashes
      rw [Link.eq_of_line_eq hlink hlink' hline]

/-! ## Tampering -/

/-- No organisation that is touched has a line later on. -/
def AtEnd (touched after : List Bytes) : Prop :=
  ∀ line ∈ touched, ∀ org, BelongsTo line org → ∀ later ∈ after, ¬ BelongsTo later org

theorem Accepted.atEnd (hne : old ≠ new)
    (hhash : HashesApart hash (old.toList ++ new.toList))
    (hold : Accepted hash (before ++ old.toList ++ after))
    (hnew : Accepted hash (before ++ new.toList ++ after)) :
    AtEnd (old.toList ++ new.toList) after := by
  intro line hline org horg
  rw [← linksOf_eq_nil_iff]
  by_contra hlater
  obtain ⟨first, rest, hfirst⟩ := List.exists_cons_of_ne_nil hlater
  have hlinkedOld := (accepted_iff.mp hold).2 org
  have hlinkedNew := (accepted_iff.mp hnew).2 org
  simp only [linksOf_append, hfirst, linked_append_iff, lastHead_append] at hlinkedOld hlinkedNew
  have hsame := linksOf_eq_of_continues hhash hlinkedOld.1.2 hlinkedNew.1.2 hlinkedOld.2.1
    hlinkedNew.2.1
  -- one of the two holds a link of the organisation, so both hold it, and are the same line
  rcases linksOf_toList_cases org old with hnone | ⟨line', link, rfl, hlink, hone⟩
  · have htouched : linksOf org (old.toList ++ new.toList) = [] := by
      rw [linksOf_append, ← hsame, hnone, List.append_nil]
    exact linksOf_eq_nil_iff.mp htouched line hline horg
  · rcases linksOf_toList_cases org new with hnone' | ⟨line'', link', rfl, hlink', hone'⟩
    · rw [hone, hnone'] at hsame
      cases hsame
    · rw [hone, hone'] at hsame
      obtain rfl : link = link' := List.singleton_inj.mp hsame
      exact hne (congrArg some (Link.ofLine?_inj hlink hlink'))

theorem Accepted.tampered (hold : Accepted hash (before ++ old.toList ++ after))
    (hnew : Accepted hash (before ++ new.toList))
    (hend : AtEnd (old.toList ++ new.toList) after) :
    Accepted hash (before ++ new.toList ++ after) := by
  obtain ⟨hlegibleOld, hlinkedOld⟩ := accepted_iff.mp hold
  obtain ⟨hlegibleNew, hlinkedNew⟩ := accepted_iff.mp hnew
  refine accepted_iff.mpr ⟨fun line hline => ?_, fun org => ?_⟩
  · rcases List.mem_append.mp hline with hnear | hafter
    · exact hlegibleNew line hnear
    · exact hlegibleOld line (List.mem_append_right _ hafter)
  · by_cases htouched : linksOf org (old.toList ++ new.toList) = []
    -- the chain is the one that it was
    · rw [linksOf_append, List.append_eq_nil_iff] at htouched
      have horg := hlinkedOld org
      rw [linksOf_append, linksOf_append, htouched.1] at horg
      rwa [linksOf_append, linksOf_append, htouched.2]
    -- the chain ends before the rest of the file
    · have hnone : linksOf org after = [] := by
        rw [linksOf_eq_nil_iff] at htouched ⊢
        push Not at htouched
        obtain ⟨line, hline, hbelongs⟩ := htouched
        exact hend line hline org hbelongs
      rw [linksOf_append, hnone, List.append_nil]
      exact hlinkedNew org

/-- If a file is accepted, then what becomes of it when one line is changed, dropped or slipped in
is accepted exactly if it is accepted up to that place and no later line belongs to an
organisation of the old or the new line. -/
theorem accepted_tampered_iff (hne : old ≠ new)
    (hhash : HashesApart hash (old.toList ++ new.toList))
    (hold : Accepted hash (before ++ old.toList ++ after)) :
    Accepted hash (before ++ new.toList ++ after) ↔
      Accepted hash (before ++ new.toList) ∧ AtEnd (old.toList ++ new.toList) after :=
  ⟨fun hnew => ⟨hnew.left, hold.atEnd hne hhash hnew⟩,
    fun ⟨hnew, hend⟩ => hold.tampered hnew hend⟩

theorem not_atEnd_iff {touched : List Bytes} : ¬ AtEnd touched after ↔
    ∃ line ∈ touched, ∃ org, BelongsTo line org ∧ ∃ later ∈ after, BelongsTo later org := by
  simp only [AtEnd]
  push Not
  rfl

/-- A file that verifies is refused after one of its lines was changed, dropped or slipped in
exactly if it is not accepted up to that place, or if a later line belongs to an organisation of the
old or the new line. -/
theorem tampering_refused_iff {content tampered : Bytes}
    (hcontent : Text.lines content = before ++ old.toList ++ after)
    (htampered : Text.lines tampered = before ++ new.toList ++ after) (hne : old ≠ new)
    (hhash : HashesApart hash (old.toList ++ new.toList))
    (hverifies : ∃ scan, LedgerFile.scan hash content = .ok scan) :
    (∃ e, LedgerFile.scan hash tampered = .error e) ↔
      ¬ Accepted hash (before ++ new.toList) ∨
      ∃ line ∈ old.toList ++ new.toList, ∃ org, BelongsTo line org ∧
        ∃ later ∈ after, BelongsTo later org := by
  have hrefused : (∃ e, LedgerFile.scan hash tampered = .error e) ↔
      ¬ Accepted hash (Text.lines tampered) := by
    unfold Accepted LedgerFile.scan
    cases LedgerFile.scanFrom hash {} 1 (Text.lines tampered) <;> simp
  have hold : Accepted hash (before ++ old.toList ++ after) := hcontent ▸ hverifies
  rw [hrefused, htampered, accepted_tampered_iff hne hhash hold, not_and_or, not_atEnd_iff]

theorem belongsTo_lineBytes {e : LedgerEntry} (hback : e.ReadsBack) :
    BelongsTo e.lineBytes e.orgId :=
  ⟨e.link, hback.ofLine?, rfl⟩

/-- The first of two entries cannot be dropped unnoticed. -/
theorem dropped_beginning_refused :
    (∃ scan, LedgerFile.scan Digest.hex (fileOf [firstEntry, secondEntry]) = .ok scan) ∧
      ∃ e, LedgerFile.scan Digest.hex (fileOf [secondEntry]) = .error e := by
  have hlines : Text.lines (fileOf [firstEntry, secondEntry]) =
      [] ++ (some firstEntry.lineBytes).toList ++ [secondEntry.lineBytes] := lines_fileOf _
  have hrest : Text.lines (fileOf [secondEntry]) =
      [] ++ (none : Option Bytes).toList ++ [secondEntry.lineBytes] := lines_fileOf _
  have hhash : HashesApart Digest.hex
      ((some firstEntry.lineBytes).toList ++ (none : Option Bytes).toList) :=
    hashesApart_of_forall_eq _ fun _ hline => List.mem_singleton.mp hline
  refine ⟨verifies_both, (tampering_refused_iff hlines hrest (Option.some_ne_none _) hhash
    verifies_both).mpr (Or.inr ?_)⟩
  exact ⟨firstEntry.lineBytes, List.mem_cons_self, firstEntry.orgId,
    belongsTo_lineBytes firstEntry_readsBack, secondEntry.lineBytes, List.mem_cons_self,
    belongsTo_lineBytes secondEntry_readsBack⟩

/-- The second of two entries can be dropped unnoticed, for nothing goes back to it. -/
theorem dropped_end_accepted :
    (Journal.run Digest.hex {} [numbered 1, numbered 2]).content =
      fileOf [firstEntry, secondEntry] ∧
    ofLines ((LineEdit.delete 1).apply (Text.lines (fileOf [firstEntry, secondEntry]))) =
      fileOf [firstEntry] ∧
    ∃ scan, LedgerFile.scan Digest.hex (fileOf [firstEntry]) = .ok scan := by
  refine ⟨content_both, ?_, verifies_first⟩
  rw [lines_fileOf]
  rfl

end Mandate
