import Mandate.Proofs.Ledger.Sessions
import Mandate.Proofs.Ledger.Tampering

/-! # Going on with a file

A ledger opens any file that verifies, whoever wrote it: lines may be blank or end with a carriage
return, and the last one may lack its newline. The chains go on from what was found there. The bytes
of a new entry, however, come directly behind the last byte. Behind an unfinished entry they make an
illegible line, and behind unfinished blanks a line with another hash than the chain goes on with.
-/

namespace Mandate

open Mandate.Json Mandate.Text

variable {hash : String → String} {content tail : Bytes} {first : LedgerEntry}
  {entries later : List LedgerEntry} {blanks : String} {link : Link} {head : Option Head}
  {org : Uuid}

/-! ## Behind an unfinished line -/

/-- The blanks of JSON, as bytes. -/
def blankBytes : Bytes := [9, 10, 13, 32]

theorem forall_blankBytes_iff (s : String) :
    (∀ b ∈ utf8 s, b ∈ blankBytes) ↔ ∀ c ∈ s.toList, isSpace c = true := by
  rw [utf8_eq_flatMap]
  constructor
  · intro hbytes c hc
    obtain ⟨b, more, hencoded⟩ := List.exists_cons_of_ne_nil (utf8EncodeChar_ne_nil c)
    have hmem : b ∈ String.utf8EncodeChar c := hencoded ▸ List.mem_cons_self
    have hblank : b ∈ blankBytes := hbytes b (List.mem_flatMap.mpr ⟨c, hc, hmem⟩)
    have hascii : b.toNat < 128 ∧ isSpace (Char.ofNat b.toNat) = true := by
      simp only [blankBytes, List.mem_cons, List.not_mem_nil, or_false] at hblank
      rcases hblank with rfl | rfl | rfl | rfl <;> exact ⟨by decide, rfl⟩
    obtain ⟨hbyte, hspace⟩ := hascii
    rwa [← (utf8EncodeChar_of_mem hmem hbyte).2, Char.ofNat_toNat] at hspace
  · intro hspaces b hb
    obtain ⟨c, hc, hb⟩ := List.mem_flatMap.mp hb
    have hspace := hspaces c hc
    simp only [isSpace, Bool.or_eq_true, decide_eq_true_eq] at hspace
    have hascii : c.toNat < 128 ∧ c.toNat.toUInt8 ∈ blankBytes := by
      rcases hspace with ((rfl | rfl) | rfl) | rfl <;> exact ⟨by decide, by simp [blankBytes]⟩
    rw [utf8EncodeChar_of_ascii hascii.1] at hb
    exact List.mem_singleton.mp hb ▸ hascii.2

namespace LedgerEntry

variable (e : LedgerEntry)

theorem utf8_append_line (blanks : String) : utf8 (blanks ++ e.line) = utf8 blanks ++ e.lineBytes :=
  utf8_append blanks e.line

theorem isBlankText_append_line (before : String) : isBlankText (before ++ e.line) = false := by
  have hline := e.isBlankText_line
  rw [isBlankText] at hline
  rw [isBlankText, String.toList_append, List.all_append, hline, Bool.and_false]

theorem not_blank_behind (before : String) : ¬ BlankLine (utf8 before ++ e.lineBytes) := by
  rintro ⟨text, htext, hblank⟩
  rw [← utf8_append_line, ofUtf8?_utf8] at htext
  rw [← Option.some.inj htext, isBlankText_append_line] at hblank
  cases hblank

/-- Behind blanks an entry is read as it is without them, and the line is another one. -/
theorem ofLine?_behind_blanks (hblanks : ∀ c ∈ blanks.toList, isSpace c = true) :
    Link.ofLine? (utf8 blanks ++ e.lineBytes) = some link ↔
      blanks ++ e.line = link.line ∧ Chains.readEntry e.line = .ok link.entry := by
  have hchars : (blanks ++ e.line).toList = blanks.toList ++ e.json.chars := by
    rw [String.toList_append, line, Value.text, String.toList_ofList]
  have hread : Chains.readEntry (blanks ++ e.line) = Chains.readEntry e.line := by
    rw [Chains.readEntry, Chains.readEntry, Json.ofText?_behind_blanks hblanks hchars, line,
      ofText?_text_eq_reread]
  rw [Link.ofLine?_eq_some_iff, ← utf8_append_line, ofUtf8?_utf8, Option.some.injEq]
  constructor
  · rintro ⟨hline, -, hentry⟩
    rw [← hline, hread] at hentry
    exact ⟨hline, hentry⟩
  · rintro ⟨hline, hentry⟩
    rw [← hline, hread]
    exact ⟨rfl, e.isBlankText_append_line blanks, hentry⟩

/-- What is read as an entry is a container. -/
theorem isContainer_of_decode {tree : Tree} {found : LedgerEntry}
    (hdecode : decode tree = some found) : tree.IsContainer := by
  cases tree with
  | array => trivial
  | object => trivial
  | _ => cases hdecode

/-- Nothing is read of the line of an entry with another line in front, be it an entry or blank, but
for blanks of JSON. -/
theorem ofText?_behind_line {before : String}
    (hbefore : isBlankText before = true ∨ ∃ found, Chains.readEntry before = .ok found)
    (hother : ¬ ∀ c ∈ before.toList, isSpace c = true) :
    Tree.ofText? (before ++ e.line) = none := by
  rcases hbefore with hblank | ⟨found, hread⟩
  · push Not at hother
    simp only [ne_eq, Bool.not_eq_true] at hother
    exact ofText?_behind_other_blanks (List.all_eq_true.mp hblank) hother String.toList_append
  · obtain ⟨tree, htree, hdecode⟩ := Chains.readEntry_eq_ok_iff.mp hread
    obtain ⟨o, more, ho, hskip⟩ := exists_opening htree (isContainer_of_decode hdecode)
    exact e.ofText?_behind_opening ho hskip String.toList_append

/-- Behind the last line of a file that verifies, an entry is legible if nothing but blanks of JSON
stands there. -/
theorem legible_behind_iff (htail : tail = [] ∨ LegibleLine tail) :
    LegibleLine (tail ++ e.lineBytes) ↔ (∀ b ∈ tail, b ∈ blankBytes) ∧ e.Legible := by
  obtain ⟨before, rfl, hbefore⟩ : ∃ before, tail = utf8 before ∧
      (isBlankText before = true ∨ ∃ found, Chains.readEntry before = .ok found) := by
    rcases htail with rfl | ⟨text, htext, hblank⟩ | ⟨link, hlink⟩
    · exact ⟨"", utf8_empty.symm, Or.inl rfl⟩
    · exact ⟨text, (utf8_of_ofUtf8? htext).symm, Or.inl hblank⟩
    · obtain ⟨htext, -, hread⟩ := Link.ofLine?_eq_some_iff.mp hlink
      exact ⟨link.line, (utf8_of_ofUtf8? htext).symm, Or.inr ⟨_, hread⟩⟩
  rw [forall_blankBytes_iff]
  constructor
  · intro hlegible
    obtain ⟨link, hlink⟩ := hlegible.resolve_left (e.not_blank_behind before)
    have hspaces : ∀ c ∈ before.toList, isSpace c = true := by
      by_contra hother
      obtain ⟨htext, -, hread⟩ := Link.ofLine?_eq_some_iff.mp hlink
      rw [← utf8_append_line, ofUtf8?_utf8] at htext
      rw [← Option.some.inj htext, Chains.readEntry, e.ofText?_behind_line hbefore hother] at hread
      cases hread
    exact ⟨hspaces, legible_of_readEntry ((e.ofLine?_behind_blanks hspaces).mp hlink).2⟩
  · rintro ⟨hspaces, hlegible⟩
    obtain ⟨timestamp, payload, hread⟩ := hlegible.exists_readEntry
    exact Or.inr ⟨⟨_, before ++ e.line⟩, (e.ofLine?_behind_blanks hspaces).mpr ⟨rfl, hread⟩⟩

theorem legible_lineBytes_iff : LegibleLine e.lineBytes ↔ e.Legible := by
  have hiff := e.legible_behind_iff (Or.inl rfl : ([] : Bytes) = [] ∨ LegibleLine [])
  simpa using hiff

end LedgerEntry

/-! ## Chains behind a file -/

theorem linked_lineBytes_iff (hlegible : ∀ e ∈ entries, e.Legible) :
    Linked hash head (linksOf org (entries.map LedgerEntry.lineBytes)) ↔
      Linked hash head (linksFor org entries) := by
  induction entries generalizing head with
  | nil => rfl
  | cons e entries ih =>
      obtain ⟨he, hentries⟩ := List.forall_mem_cons.mp hlegible
      obtain ⟨timestamp, payload, hread⟩ := he.exists_readEntry
      have hlink : Link.ofLine? e.lineBytes = some ⟨{ e with timestamp, payload }, e.line⟩ :=
        Link.ofLine?_eq_some_iff.mpr ⟨ofUtf8?_utf8 e.line, e.isBlankText_line, hread⟩
      rw [List.map_cons, linksOf_cons_of_some _ hlink, linksFor_cons]
      dsimp only
      split
      · exact and_congr Iff.rfl (ih hentries)
      · exact ih hentries

/-- What continues a chain continues it with another line in place of the last one, of the same
number, exactly if that has the same hash. -/
theorem Linked.replace_iff {old new : Head} {links : List Link}
    (hlinked : Linked hash (some old) links) (hseq : new.seq = old.seq) :
    Linked hash (some new) links ↔ links = [] ∨ new.hash = old.hash := by
  cases links with
  | nil => simp [Linked]
  | cons link rest =>
      obtain ⟨⟨hprevious, hnumber⟩, hrest⟩ := hlinked
      constructor
      · rintro ⟨⟨hprevious', -⟩, -⟩
        exact Or.inr (Option.some.inj (hprevious'.symm.trans hprevious))
      · rintro (hnil | hhash)
        · cases hnil
        · have hsame : new = old := by
            cases new
            cases old
            obtain rfl := hseq
            obtain rfl := hhash
            rfl
          exact hsame ▸ ⟨⟨hprevious, hnumber⟩, hrest⟩

theorem eq_empty_of_hash_eq (hhash : HashesApart hash [utf8 blanks ++ first.lineBytes,
    first.lineBytes]) (hsame : hash (blanks ++ first.line) = hash first.line) : blanks = "" := by
  have hline := hhash ⟨utf8 blanks ++ first.lineBytes, by simp,
      by rw [← LedgerEntry.utf8_append_line, ofUtf8?_utf8]⟩
    ⟨first.lineBytes, by simp, ofUtf8?_utf8 first.line⟩ hsame
  have hchars := congrArg String.toList hline
  rw [String.toList_append, List.append_left_eq_self] at hchars
  exact String.toList_injective hchars

/-- Entries that continue the chains do so behind blanks too, unless one of them goes back to the
line with the blanks. -/
theorem linked_behind_blanks_iff {heads : Uuid → Option Head}
    (hblanks : ∀ c ∈ blanks.toList, isSpace c = true)
    (hhash : HashesApart hash [utf8 blanks ++ first.lineBytes, first.lineBytes])
    (hfirst : first.Legible) (hlater : ∀ e ∈ later, e.Legible)
    (hlinked : ∀ org, Linked hash (heads org) (linksFor org (first :: later))) :
    (∀ org, Linked hash (heads org)
      (linksOf org ((utf8 blanks ++ first.lineBytes) :: later.map LedgerEntry.lineBytes))) ↔
      blanks = "" ∨ ∀ e ∈ later, e.orgId ≠ first.orgId := by
  obtain ⟨timestamp, payload, hread⟩ := hfirst.exists_readEntry
  have hlink : Link.ofLine? (utf8 blanks ++ first.lineBytes) =
      some ⟨{ first with timestamp, payload }, blanks ++ first.line⟩ :=
    (first.ofLine?_behind_blanks hblanks).mpr ⟨rfl, hread⟩
  have hown := hlinked first.orgId
  rw [linksFor_cons, if_pos rfl] at hown
  obtain ⟨hcontinues, hrest⟩ := hown
  have hreplaced : Linked hash (some ⟨first.seq, hash (blanks ++ first.line)⟩)
      (linksFor first.orgId later) ↔ _ := hrest.replace_iff rfl
  simp only [linksOf_cons_of_some _ hlink]
  constructor
  · intro hall
    have hbehind := hall first.orgId
    rw [if_pos rfl] at hbehind
    rcases hreplaced.mp ((linked_lineBytes_iff hlater).mp hbehind.2) with hnone | hsame
    · exact Or.inr (linksFor_eq_nil_iff.mp hnone)
    · exact Or.inl (eq_empty_of_hash_eq hhash hsame)
  · intro hroom org
    split
    next horg =>
      subst horg
      refine ⟨hcontinues, (linked_lineBytes_iff hlater).mpr (hreplaced.mpr ?_)⟩
      rcases hroom with rfl | hnone
      · exact Or.inr (by rw [String.empty_append]; rfl)
      · exact Or.inl (linksFor_eq_nil_iff.mpr hnone)
    next horg =>
      have horgLinked := hlinked org
      rw [linksFor_cons, if_neg horg] at horgLinked
      exact (linked_lineBytes_iff hlater).mpr horgLinked

/-! ## Appending to a file -/

/-- A file goes on from another with so many entries: both verify, the count is higher by that
number, and what was read before is read unchanged and first. -/
structure Continued (hash : String → String) (before after : Bytes) (added : Nat) : Prop where
  verifies : ∃ scan scan', LedgerFile.scan hash before = .ok scan ∧
    LedgerFile.scan hash after = .ok scan' ∧ scan'.count = scan.count + added
  read : ∃ earlier more, LedgerFile.readAll before = .ok earlier ∧
    LedgerFile.readAll after = .ok (earlier ++ more)

/-- There is room for the entries at the end of a file: nothing but blanks of JSON stands behind its
last newline, and if anything does, no entry goes back to the one that comes directly behind it. -/
def Room (content : Bytes) : List LedgerEntry → Prop
  | [] => True
  | first :: later => (∀ b ∈ unfinished content, b ∈ blankBytes) ∧
      (unfinished content = [] ∨ ∀ e ∈ later, e.orgId ≠ first.orgId)

theorem lines_append_fileOf (content : Bytes) (first : LedgerEntry) (later : List LedgerEntry) :
    lines (content ++ fileOf (first :: later)) = lines (finished content) ++
      (unfinished content ++ first.lineBytes) :: later.map LedgerEntry.lineBytes := by
  have hentry : ∀ line ∈ (first :: later).map LedgerEntry.lineBytes,
      ∃ e : LedgerEntry, e.lineBytes = line := by
    intro line hline
    obtain ⟨e, -, he⟩ := List.mem_map.mp hline
    exact ⟨e, he⟩
  apply lines_append_ofLines
  · intro line hline
    obtain ⟨e, rfl⟩ := hentry line hline
    exact e.newline_notMem_lineBytes
  · intro before line hline
    obtain ⟨e, rfl⟩ := hentry line hline
    exact e.getLast?_append_lineBytes before

/-- The last line of a file that verifies is legible even without its newline. -/
theorem Accepted.legible_unfinished (haccepted : Accepted hash (lines content)) :
    unfinished content = [] ∨ LegibleLine (unfinished content) := by
  rw [or_iff_not_imp_left]
  intro hne
  apply (accepted_iff.mp haccepted).1
  rw [lines_eq_append_unfinished, if_neg hne]
  exact List.mem_append_right _ List.mem_cons_self

/-- Blanks of JSON at the end of a file that verifies hold no link. -/
theorem Accepted.exists_blanks (haccepted : Accepted hash (lines content))
    (hbytes : ∀ b ∈ unfinished content, b ∈ blankBytes) :
    ∃ blanks : String, (∀ c ∈ blanks.toList, isSpace c = true) ∧
      unfinished content = utf8 blanks ∧
        (lines content).filterMap Link.ofLine? =
          (lines (finished content)).filterMap Link.ofLine? := by
  obtain ⟨blanks, hblanks⟩ : ∃ blanks, unfinished content = utf8 blanks := by
    rcases haccepted.legible_unfinished with hnil | ⟨text, htext, -⟩ | ⟨link, hlink⟩
    · exact ⟨"", hnil.trans utf8_empty.symm⟩
    · exact ⟨text, (utf8_of_ofUtf8? htext).symm⟩
    · exact ⟨link.line, (utf8_of_ofUtf8? (Link.ofLine?_eq_some_iff.mp hlink).1).symm⟩
  have hspaces : ∀ c ∈ blanks.toList, isSpace c = true :=
    (forall_blankBytes_iff blanks).mp (hblanks ▸ hbytes)
  have hblank : BlankLine (unfinished content) := by
    refine ⟨blanks, hblanks ▸ ofUtf8?_utf8 blanks, List.all_eq_true.mpr fun c hc => ?_⟩
    have hspace := hspaces c hc
    simp only [isSpace, Bool.or_eq_true, decide_eq_true_eq] at hspace
    rcases hspace with ((rfl | rfl) | rfl) | rfl <;> rfl
  refine ⟨blanks, hspaces, hblanks, ?_⟩
  rw [lines_eq_append_unfinished, List.filterMap_append]
  split
  · simp
  · simp [hblank.ofLine?_eq]

section Append

variable {scan : Chains.Scan} (hscan : LedgerFile.scan hash content = .ok scan)
  (hlinked : ∀ org, Linked hash (scan.chains.head? org) (linksFor org (first :: later)))
  (hhash : HashesApart hash [unfinished content ++ first.lineBytes, first.lineBytes])

include hscan hlinked hhash

theorem linked_append_fileOf_iff (hbytes : ∀ b ∈ unfinished content, b ∈ blankBytes)
    (hfirst : first.Legible) (hlater : ∀ e ∈ later, e.Legible) :
    (∀ org, Linked hash none (linksOf org (lines (content ++ fileOf (first :: later))))) ↔
      unfinished content = [] ∨ ∀ e ∈ later, e.orgId ≠ first.orgId := by
  have hcontent : Accepted hash (lines content) := ⟨scan, hscan⟩
  obtain ⟨blanks, hblanks, htail, hlinks⟩ := hcontent.exists_blanks hbytes
  have hfinished (org : Uuid) :
      linksOf org (lines content) = linksOf org (lines (finished content)) := by
    rw [linksOf, hlinks, linksOf]
  have hbefore : ∀ org, Linked hash none (linksOf org (lines (finished content))) := by
    intro org
    rw [← hfinished]
    exact (accepted_iff.mp hcontent).2 org
  have hheads (org : Uuid) : scan.chains.head? org =
      lastHead hash none (linksOf org (lines (finished content))) := by
    rw [← hfinished]
    exact LedgerFile.head?_of_scanFrom hscan org
  rw [htail] at hhash
  rw [htail, utf8_eq_nil_iff, ← linked_behind_blanks_iff hblanks hhash hfirst hlater hlinked]
  refine forall_congr' fun org => ?_
  rw [lines_append_fileOf, htail, linksOf_append, linked_append_iff, ← hheads]
  exact and_iff_right (hbefore org)

/-- Behind a file that verifies, entries that continue its chains are accepted exactly if they are
legible and there is room for them. -/
theorem accepted_append_fileOf_iff :
    Accepted hash (lines (content ++ fileOf (first :: later))) ↔
      (∀ e ∈ first :: later, e.Legible) ∧ Room content (first :: later) := by
  have hcontent : Accepted hash (lines content) := ⟨scan, hscan⟩
  have hbehind := first.legible_behind_iff hcontent.legible_unfinished
  have hfinished : ∀ line ∈ lines (finished content), LegibleLine line := by
    intro line hline
    apply (accepted_iff.mp hcontent).1
    rw [lines_eq_append_unfinished]
    exact List.mem_append_left _ hline
  have hlines : (∀ line ∈ lines (content ++ fileOf (first :: later)), LegibleLine line) ↔
      ((∀ b ∈ unfinished content, b ∈ blankBytes) ∧ first.Legible) ∧ ∀ e ∈ later, e.Legible := by
    rw [lines_append_fileOf, List.forall_mem_append, List.forall_mem_cons, List.forall_mem_map,
      hbehind]
    simp only [LedgerEntry.legible_lineBytes_iff]
    exact and_iff_right hfinished
  rw [accepted_iff, hlines, List.forall_mem_cons, Room]
  constructor
  · rintro ⟨⟨⟨hbytes, hfirst⟩, hlater⟩, hall⟩
    exact ⟨⟨hfirst, hlater⟩, hbytes,
      (linked_append_fileOf_iff hscan hlinked hhash hbytes hfirst hlater).mp hall⟩
  · rintro ⟨⟨hfirst, hlater⟩, hbytes, hroom⟩
    exact ⟨⟨⟨hbytes, hfirst⟩, hlater⟩,
      (linked_append_fileOf_iff hscan hlinked hhash hbytes hfirst hlater).mpr hroom⟩

end Append

theorem Continued.accepted {before after : Bytes} {added : Nat}
    (hcontinued : Continued hash before after added) : Accepted hash (lines after) := by
  obtain ⟨-, scan, -, hscan, -⟩ := hcontinued.verifies
  exact ⟨scan, hscan⟩

/-- A file that verifies goes on from another if its links are those of the other and more. -/
theorem continued_of_links {before after : Bytes} {more : List Link}
    (hbefore : Accepted hash (lines before)) (hafter : Accepted hash (lines after))
    (hlinks : (lines after).filterMap Link.ofLine? =
      (lines before).filterMap Link.ofLine? ++ more) : Continued hash before after more.length := by
  obtain ⟨scan, hscan⟩ := hbefore
  obtain ⟨scan', hscan'⟩ := hafter
  constructor
  · refine ⟨scan, scan', hscan, hscan', ?_⟩
    rw [LedgerFile.eq_of_scanFrom_eq_ok hscan', LedgerFile.eq_of_scanFrom_eq_ok hscan, hlinks]
    simp only [List.length_append, Nat.add_assoc]
  · refine ⟨_, more.map (·.entry), LedgerFile.entriesOf_eq_ok_iff.mpr
      ⟨(accepted_iff.mp ⟨scan, hscan⟩).1, rfl⟩, LedgerFile.entriesOf_eq_ok_iff.mpr
      ⟨(accepted_iff.mp ⟨scan', hscan'⟩).1, ?_⟩⟩
    rw [hlinks, List.map_append]

/-- Entries behind a file that verifies, each of which continues its chain, go on from it exactly if
they are legible and there is room for them. -/
theorem continued_append_fileOf_iff {scan : Chains.Scan}
    (hscan : LedgerFile.scan hash content = .ok scan)
    (hlinked : ∀ org, Linked hash (scan.chains.head? org) (linksFor org entries))
    (hhash : ∀ first ∈ entries.head?,
      HashesApart hash [unfinished content ++ first.lineBytes, first.lineBytes]) :
    Continued hash content (content ++ fileOf entries) entries.length ↔
      (∀ e ∈ entries, e.Legible) ∧ Room content entries := by
  have hcontent : Accepted hash (lines content) := ⟨scan, hscan⟩
  cases entries with
  | nil =>
      have hnothing : content ++ fileOf [] = content := List.append_nil content
      rw [hnothing]
      refine iff_of_true ?_ ⟨by simp, trivial⟩
      exact continued_of_links hcontent hcontent (List.append_nil _).symm
  | cons first later =>
      rw [← accepted_append_fileOf_iff hscan hlinked (hhash first rfl)]
      refine ⟨Continued.accepted, fun haccepted => ?_⟩
      obtain ⟨hlegible, hbytes, -⟩ :=
        (accepted_append_fileOf_iff hscan hlinked (hhash first rfl)).mp haccepted
      obtain ⟨blanks, -, htail, hlinks⟩ := hcontent.exists_blanks hbytes
      have hlines := lines_append_fileOf content first later
      have hadded : ∀ line ∈ (unfinished content ++ first.lineBytes) ::
          later.map LedgerEntry.lineBytes, LegibleLine line ∧ ¬ BlankLine line := by
        intro line hline
        refine ⟨(accepted_iff.mp haccepted).1 line (hlines ▸ List.mem_append_right _ hline), ?_⟩
        rcases List.mem_cons.mp hline with rfl | hline
        · exact htail ▸ first.not_blank_behind blanks
        · obtain ⟨e, -, rfl⟩ := List.mem_map.mp hline
          exact e.not_blank_lineBytes
      have hlength := length_filterMap_ofLine? hadded
      rw [List.length_cons, List.length_map] at hlength
      rw [List.length_cons, ← hlength]
      apply continued_of_links hcontent haccepted
      rw [hlines, List.filterMap_append, hlinks]

/-- The journal with which a session on a file begins, after the scan of the file. -/
def Journal.opened (content : Bytes) (scan : Chains.Scan) : Journal :=
  { ledger := { chains := scan.chains }, content }

theorem Journal.session_eq_ok_iff {attempts : List Attempt} {journal : Journal} :
    Journal.session hash (some { content }) attempts = .ok (some journal) ↔
      ∃ scan, LedgerFile.scan hash content = .ok scan ∧
        (Journal.opened content scan).run hash attempts = journal := by
  simp only [Journal.session, Ledger.openFile, Option.map_some, Option.getD_some, bind,
    Except.bind]
  cases LedgerFile.scan hash content with
  | error e => simp [Except.map]
  | ok scan => simp [Except.map, pure, Except.pure, Journal.opened]

theorem Journal.content_opened_run (content : Bytes) (scan : Chains.Scan)
    {attempts : List Attempt} (hwritten : ∀ a ∈ attempts, a.fault = none) :
    ((Journal.opened content scan).run hash attempts).content =
      content ++ fileOf ((Journal.opened content scan).run hash attempts).recorded :=
  content_run_behind content attempts (List.append_nil content).symm rfl hwritten

theorem Journal.chainedFrom_opened_run (hash : String → String) (content : Bytes)
    (scan : Chains.Scan) (attempts : List Attempt) :
    ChainedFrom hash scan.chains ((Journal.opened content scan).run hash attempts).ledger.chains
      ((Journal.opened content scan).run hash attempts).recorded :=
  ChainedFrom.run (ChainedFrom.start scan.chains) attempts

/-- When a ledger is opened on a file, appends that are all written go on from it exactly if each
entry with which they are answered is legible and there is room for them: the last line of the file
has its newline, or it is one of blanks, and no entry goes back to the one that comes behind them.
What this asks of the hash function is only that it tells that entry apart with and without the
blanks. -/
theorem appends_continue_iff {attempts : List Attempt} {journal : Journal}
    (hsession : Journal.session hash (some { content }) attempts = .ok (some journal))
    (hwritten : ∀ a ∈ attempts, a.fault = none)
    (hhash : ∀ first ∈ journal.recorded.head?,
      HashesApart hash [unfinished content ++ first.lineBytes, first.lineBytes]) :
    Continued hash content journal.content attempts.length ↔
      (∀ e ∈ journal.recorded, e.Legible) ∧ Room content journal.recorded := by
  obtain ⟨scan, hscan, rfl⟩ := Journal.session_eq_ok_iff.mp hsession
  obtain ⟨more, hmore, hanswered⟩ := (Journal.opened content scan).run_answered hash hwritten
  have hlength : attempts.length =
      ((Journal.opened content scan).run hash attempts).recorded.length := by
    rw [hmore, hanswered.length_eq]
    rfl
  have hchained := Journal.chainedFrom_opened_run hash content scan attempts
  rw [Journal.content_opened_run content scan hwritten, hlength]
  exact continued_append_fileOf_iff hscan (fun org => (hchained org).2) hhash

/-- A second session on the file of the first entry. -/
theorem second_session_continues : ∃ journal,
    Journal.session Digest.hex (some { content := fileOf [firstEntry] }) [numbered 2] =
      .ok (some journal) ∧
    (∀ a ∈ [numbered 2], a.fault = none) ∧
    (∀ first ∈ journal.recorded.head?, HashesApart Digest.hex
      [unfinished (fileOf [firstEntry]) ++ first.lineBytes, first.lineBytes]) ∧
    Continued Digest.hex (fileOf [firstEntry]) journal.content 1 := by
  have hstart : Journal.Settled Digest.hex {} := .start
  have hsettled : (Journal.run Digest.hex {} [numbered 1]).Settled Digest.hex :=
    hstart.run (by simp [numbered])
  have hscan := hsettled.scan (by simpa [recorded_first] using firstEntry_readsBack)
  rw [hsettled.content, recorded_first, List.length_singleton] at hscan
  have hsession : Journal.session Digest.hex (some { content := fileOf [firstEntry] })
      [numbered 2] = .ok (some ((Journal.opened _ _).run Digest.hex [numbered 2])) :=
    Journal.session_eq_ok_iff.mpr ⟨_, hscan, rfl⟩
  have hrecorded : ((Journal.opened (fileOf [firstEntry]) ⟨1, (Journal.run Digest.hex {}
      [numbered 1]).ledger.chains⟩).run Digest.hex [numbered 2]).recorded = [secondEntry] := rfl
  have hwritten : ∀ a ∈ [numbered 2], a.fault = none := by simp [numbered]
  have hnone : unfinished (fileOf [firstEntry]) = [] := unfinished_ofLines _
  have hhash : ∀ first : LedgerEntry, HashesApart Digest.hex
      [unfinished (fileOf [firstEntry]) ++ first.lineBytes, first.lineBytes] := by
    intro first
    rw [hnone]
    exact hashesApart_of_forall_eq first.lineBytes (by simp)
  refine ⟨_, hsession, hwritten, fun first _ => hhash first,
    (appends_continue_iff hsession hwritten fun first _ => hhash first).mpr ⟨?_, ?_⟩⟩
  · rw [hrecorded, List.forall_mem_singleton]
    exact secondEntry_readsBack.legible
  · rw [hrecorded, Room, hnone]
    exact ⟨by simp, Or.inl rfl⟩

/-- Behind an entry without its newline the next one is lost, and the entry with it. -/
theorem joined_line_refused : ∃ journal,
    Journal.session Digest.hex (some { content := firstEntry.lineBytes }) [numbered 2] =
      .ok (some journal) ∧
    (∀ a ∈ [numbered 2], a.fault = none) ∧
    (¬ ∃ scan, LedgerFile.scan Digest.hex journal.content = .ok scan) ∧
    ¬ ∃ entries, LedgerFile.readAll journal.content = .ok entries := by
  have hlines : lines firstEntry.lineBytes = lines (fileOf [firstEntry]) := by
    rw [lines_fileOf, lines_of_notMem firstEntry.newline_notMem_lineBytes
      firstEntry.beginsEntry_lineBytes.ne_nil]
    rfl
  have hwritten : ∀ a ∈ [numbered 2], a.fault = none := by simp [numbered]
  obtain ⟨scan, hscan⟩ := verifies_first
  rw [LedgerFile.scan, ← hlines] at hscan
  refine ⟨_, Journal.session_eq_ok_iff.mpr ⟨scan, hscan, rfl⟩, hwritten, ?_⟩
  have hillegible : ¬ ∀ line ∈ lines ((Journal.opened firstEntry.lineBytes scan).run Digest.hex
      [numbered 2]).content, LegibleLine line := by
    intro hlegible
    have hrecorded : ((Journal.opened firstEntry.lineBytes scan).run Digest.hex
        [numbered 2]).recorded = [(Journal.opened firstEntry.lineBytes scan).entry (numbered 2)] :=
      rfl
    rw [Journal.content_opened_run _ scan hwritten, hrecorded, lines_append_fileOf,
      unfinished_of_notMem firstEntry.newline_notMem_lineBytes] at hlegible
    exact firstEntry.beginsEntry_lineBytes.not_legible _
      (hlegible _ (List.mem_append_right _ List.mem_cons_self))
  constructor
  · rintro ⟨scan', hscan'⟩
    exact hillegible (accepted_iff.mp ⟨scan', hscan'⟩).1
  · rintro ⟨entries, hread⟩
    exact hillegible (LedgerFile.entriesOf_eq_ok_iff.mp hread).1

end Mandate
