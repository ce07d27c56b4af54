import Mandate.Ledger.File
import Mandate.Proofs.Table

/-! # The chains of a ledger file

A scan goes through a file once and keeps the heads of all chains side by side. What it accepts can
be said for every organisation on its own: every line can be read, and the entries of each
organisation continue one another from the first one on.
-/

namespace Mandate

open Mandate.Text

/-! ## Lines and links -/

/-- An entry with the line in which it is stored. -/
structure Link where
  entry : LedgerEntry
  line : String

namespace Link

/-- The link that a line of a file holds. A blank line holds none, and neither does one that
cannot be read. -/
def ofLine? (line : Bytes) : Option Link :=
  match ofUtf8? line with
  | none => none
  | some text =>
      if isBlankText text then none else (Chains.readEntry text).toOption.map (⟨·, text⟩)

/-- The head of a chain that ends with a link. -/
def head (hash : String → String) (link : Link) : Head := ⟨link.entry.seq, hash link.line⟩

end Link

/-- A line of white space. -/
def BlankLine (line : Bytes) : Prop :=
  ∃ text, ofUtf8? line = some text ∧ isBlankText text = true

/-- A line that can be read: it is blank, or it holds a link. -/
def LegibleLine (line : Bytes) : Prop :=
  BlankLine line ∨ ∃ link, Link.ofLine? line = some link

variable {hash : String → String} {line : Bytes} {link : Link}

theorem BlankLine.ofLine?_eq (hblank : BlankLine line) : Link.ofLine? line = none := by
  obtain ⟨text, htext, hblank⟩ := hblank
  simp [Link.ofLine?, htext, hblank]

theorem Link.ofLine?_eq_some_iff : Link.ofLine? line = some link ↔
    ofUtf8? line = some link.line ∧ isBlankText link.line = false ∧
      Chains.readEntry link.line = .ok link.entry := by
  unfold Link.ofLine?
  cases ofUtf8? line with
  | none => simp
  | some text =>
      dsimp only
      constructor
      · intro hlink
        split at hlink
        · cases hlink
        next hblank =>
          obtain ⟨entry, hentry, rfl⟩ := Option.map_eq_some_iff.mp hlink
          cases hread : Chains.readEntry text with
          | error e => simp [hread, Except.toOption] at hentry
          | ok found =>
              obtain rfl : found = entry := by simpa [hread, Except.toOption] using hentry
              exact ⟨rfl, by simpa using hblank, rfl⟩
      · rintro ⟨htext, hblank, hread⟩
        obtain rfl := Option.some.inj htext
        simp [hblank, hread, Except.toOption]

/-! ## Chains -/

/-- The entry comes next after a head, or first if there is none. -/
def Continues (head : Option Head) (entry : LedgerEntry) : Prop :=
  entry.previousHash = head.map (·.hash) ∧ entry.seq = (head.map (·.seq)).getD 0 + 1

/-- The links continue one another, and the first one a given head. -/
def Linked (hash : String → String) : Option Head → List Link → Prop
  | _, [] => True
  | head, link :: rest => Continues head link.entry ∧ Linked hash (some (link.head hash)) rest

/-- The head after some links. -/
def lastHead (hash : String → String) : Option Head → List Link → Option Head
  | head, [] => head
  | _, link :: rest => lastHead hash (some (link.head hash)) rest

theorem linked_append_iff {head : Option Head} {links more : List Link} :
    Linked hash head (links ++ more) ↔
      Linked hash head links ∧ Linked hash (lastHead hash head links) more := by
  induction links generalizing head with
  | nil => simp [Linked, lastHead]
  | cons link rest ih => simp only [List.cons_append, Linked, lastHead, ih, and_assoc]

theorem lastHead_append {head : Option Head} {links more : List Link} :
    lastHead hash head (links ++ more) = lastHead hash (lastHead hash head links) more := by
  induction links generalizing head with
  | nil => rfl
  | cons link rest ih => exact ih

@[simp] theorem lastHead_concat (head : Option Head) (links : List Link) (link : Link) :
    lastHead hash head (links ++ [link]) = some (link.head hash) := by
  rw [lastHead_append]
  rfl

/-- The links of an organisation among the lines of a file. -/
def linksOf (org : Uuid) (lines : List Bytes) : List Link :=
  (lines.filterMap Link.ofLine?).filter fun link => link.entry.orgId = org

@[simp] theorem linksOf_append (org : Uuid) (before after : List Bytes) :
    linksOf org (before ++ after) = linksOf org before ++ linksOf org after := by
  simp [linksOf]

theorem linksOf_cons_of_none (org : Uuid) (hnone : Link.ofLine? line = none)
    (rest : List Bytes) : linksOf org (line :: rest) = linksOf org rest := by
  simp [linksOf, hnone]

theorem linksOf_cons_of_some (org : Uuid) (hlink : Link.ofLine? line = some link)
    (rest : List Bytes) :
    linksOf org (line :: rest) =
      if link.entry.orgId = org then link :: linksOf org rest else linksOf org rest := by
  simp [linksOf, hlink, List.filter_cons]

/-- As many links as lines are read if no line is blank. -/
theorem length_filterMap_ofLine? {lines : List Bytes}
    (hlines : ∀ line ∈ lines, LegibleLine line ∧ ¬ BlankLine line) :
    (lines.filterMap Link.ofLine?).length = lines.length := by
  induction lines with
  | nil => rfl
  | cons line rest ih =>
      obtain ⟨⟨hlegible, hfilled⟩, hrest⟩ := List.forall_mem_cons.mp hlines
      obtain ⟨link, hlink⟩ := hlegible.resolve_left hfilled
      rw [List.filterMap_cons_some hlink, List.length_cons, List.length_cons, ih hrest]

/-! ## Scanning -/

namespace Chains

variable {chains next : Chains} {org : Uuid} {number : Nat}

theorem head?_setHead (chains : Chains) (org other : Uuid) (head : Head) :
    (chains.setHead org head).head? other =
      if other = org then some head else chains.head? other := by
  unfold setHead head?
  rw [List.lookup_cons]
  by_cases hother : other = org
  · simp [hother]
  · simp [beq_false_of_ne hother, hother, lookup_filter_ne hother]

theorem head?_advance (chains : Chains) (link : Link) (other : Uuid) :
    (chains.advance hash link.entry link.line).head? other =
      if other = link.entry.orgId then some (link.head hash) else chains.head? other :=
  head?_setHead ..

theorem continues_iff {entry : LedgerEntry} : Continues (chains.head? entry.orgId) entry ↔
    entry.previousHash = chains.nextHash entry.orgId ∧
      entry.seq = chains.nextSeq entry.orgId := by
  unfold Continues nextHash nextSeq
  cases chains.head? entry.orgId <;> simp

/-- A line is accepted exactly if it holds an entry that continues its chain. -/
theorem accept_eq_ok_iff {line : String} : chains.accept hash number line = .ok next ↔
    ∃ entry, readEntry line = .ok entry ∧ Continues (chains.head? entry.orgId) entry ∧
      chains.advance hash entry line = next := by
  unfold accept
  cases hread : readEntry line with
  | error e => simp [bind, Except.bind]
  | ok entry =>
      simp only [bind, Except.bind, Except.ok.injEq, exists_eq_left', continues_iff]
      by_cases hhash : entry.previousHash = chains.nextHash entry.orgId
      · by_cases hseq : entry.seq = chains.nextSeq entry.orgId
        · simp [hhash, hseq, pure, Except.pure]
        · simp [hhash, hseq, throw, throwThe, MonadExceptOf.throw]
      · simp [hhash, throw, throwThe, MonadExceptOf.throw]

/-- The chains when some links have been added, one after the other. -/
def extend (hash : String → String) (chains : Chains) (links : List Link) : Chains :=
  links.foldl (fun chains link => chains.advance hash link.entry link.line) chains

theorem extend_append (chains : Chains) (links more : List Link) :
    chains.extend hash (links ++ more) = (chains.extend hash links).extend hash more :=
  List.foldl_append

/-- Each head is that of the last link of its organisation. -/
theorem head?_extend (chains : Chains) (org : Uuid) (links : List Link) :
    (chains.extend hash links).head? org =
      lastHead hash (chains.head? org) (links.filter fun link => link.entry.orgId = org) := by
  induction links generalizing chains with
  | nil => rfl
  | cons link rest ih =>
      have hextend : chains.extend hash (link :: rest) =
          (chains.advance hash link.entry link.line).extend hash rest := rfl
      rw [hextend, ih, head?_advance, List.filter_cons]
      by_cases horg : link.entry.orgId = org
      · simp [horg, lastHead]
      · simp [horg, Ne.symm horg]

end Chains

namespace LedgerFile

open Chains

variable {scan final : Scan} {number : Nat} {rest lines : List Bytes}

/-- What a scan does with one line: it goes on after a blank one, it goes on with the chain of an
entry that continues it, and it stops at any other. -/
theorem scanFrom_cons_ok_iff :
    scanFrom hash scan number (line :: rest) = .ok final ↔
      (BlankLine line ∧ scanFrom hash scan (number + 1) rest = .ok final) ∨
      ∃ link, Link.ofLine? line = some link ∧
        Continues (scan.chains.head? link.entry.orgId) link.entry ∧
        scanFrom hash ⟨scan.count + 1, scan.chains.advance hash link.entry link.line⟩ (number + 1)
          rest = .ok final := by
  rw [scanFrom]
  cases htext : ofUtf8? line with
  | none => simp [lineText, htext, bind, Except.bind, BlankLine, Link.ofLine?]
  | some text =>
      simp only [lineText, htext, bind, Except.bind]
      by_cases hblank : isBlankText text = true
      · have hblankLine : BlankLine line := ⟨text, htext, hblank⟩
        simp [Scan.line, hblank, hblankLine, hblankLine.ofLine?_eq]
      · have hfilled : ¬ BlankLine line := by
          rintro ⟨text', htext', hblank'⟩
          obtain rfl : text = text' := Option.some.inj (htext.symm.trans htext')
          exact hblank hblank'
        simp only [Scan.line, hblank, hfilled, false_and, false_or]
        constructor
        · intro hscan
          cases haccept : scan.chains.accept hash number text with
          | error e => simp [haccept, Except.map] at hscan
          | ok next =>
              obtain ⟨entry, hread, hcontinues, rfl⟩ := accept_eq_ok_iff.mp haccept
              refine ⟨⟨entry, text⟩, ?_, hcontinues, ?_⟩
              · exact Link.ofLine?_eq_some_iff.mpr ⟨htext, by simpa using hblank, hread⟩
              · simpa [haccept, Except.map] using hscan
        · rintro ⟨link, hlink, hcontinues, hscan⟩
          obtain ⟨hline, -, hread⟩ := Link.ofLine?_eq_some_iff.mp hlink
          obtain rfl : text = link.line := Option.some.inj (htext.symm.trans hline)
          have haccept : scan.chains.accept hash number link.line =
              .ok (scan.chains.advance hash link.entry link.line) :=
            accept_eq_ok_iff.mpr ⟨link.entry, hread, hcontinues, rfl⟩
          simpa [haccept, Except.map] using hscan

theorem linked_linksOf_cons_iff (hlink : Link.ofLine? line = some link) (chains : Chains)
    (rest : List Bytes) :
    (∀ org, Linked hash (chains.head? org) (linksOf org (line :: rest))) ↔
      Continues (chains.head? link.entry.orgId) link.entry ∧
        ∀ org, Linked hash ((chains.advance hash link.entry link.line).head? org)
          (linksOf org rest) := by
  simp only [linksOf_cons_of_some _ hlink, head?_advance]
  constructor
  · intro hlinked
    have hown := hlinked link.entry.orgId
    rw [if_pos rfl] at hown
    refine ⟨hown.1, fun org => ?_⟩
    split
    next horg => exact horg ▸ hown.2
    next horg => simpa [Ne.symm horg] using hlinked org
  · rintro ⟨hcontinues, hrest⟩ org
    have horg := hrest org
    split
    next hown =>
      subst hown
      rw [if_pos rfl] at horg
      exact ⟨hcontinues, horg⟩
    next hother => simpa [Ne.symm hother] using horg

/-- A scan comes to its end exactly if every line can be read and the links of every organisation
continue one another. -/
theorem scanFrom_ok_iff (hash : String → String) (scan : Scan) (number : Nat)
    (lines : List Bytes) :
    (∃ final, scanFrom hash scan number lines = .ok final) ↔
      (∀ line ∈ lines, LegibleLine line) ∧
        ∀ org, Linked hash (scan.chains.head? org) (linksOf org lines) := by
  induction lines generalizing scan number with
  | nil => simp [scanFrom, linksOf, Linked]
  | cons line rest ih =>
      simp only [scanFrom_cons_ok_iff, List.forall_mem_cons]
      constructor
      · rintro ⟨final, ⟨hblank, hscan⟩ | ⟨link, hlink, hcontinues, hscan⟩⟩
        · obtain ⟨hlegible, hlinked⟩ := (ih scan (number + 1)).mp ⟨final, hscan⟩
          refine ⟨⟨Or.inl hblank, hlegible⟩, fun org => ?_⟩
          rw [linksOf_cons_of_none _ hblank.ofLine?_eq]
          exact hlinked org
        · obtain ⟨hlegible, hlinked⟩ := (ih _ _).mp ⟨final, hscan⟩
          exact ⟨⟨Or.inr ⟨link, hlink⟩, hlegible⟩,
            (linked_linksOf_cons_iff hlink _ _).mpr ⟨hcontinues, hlinked⟩⟩
      · rintro ⟨⟨hblank | ⟨link, hlink⟩, hlegible⟩, hlinked⟩
        · simp only [linksOf_cons_of_none _ hblank.ofLine?_eq] at hlinked
          obtain ⟨final, hscan⟩ := (ih scan (number + 1)).mpr ⟨hlegible, hlinked⟩
          exact ⟨final, Or.inl ⟨hblank, hscan⟩⟩
        · obtain ⟨hcontinues, hrest⟩ := (linked_linksOf_cons_iff hlink _ _).mp hlinked
          obtain ⟨final, hscan⟩ := (ih ⟨_, _⟩ (number + 1)).mpr ⟨hlegible, hrest⟩
          exact ⟨final, Or.inr ⟨link, hlink, hcontinues, hscan⟩⟩

/-- A scan that comes to its end has counted the links and added them to the chains. -/
theorem eq_of_scanFrom_eq_ok (hscan : scanFrom hash scan number lines = .ok final) :
    final = ⟨scan.count + (lines.filterMap Link.ofLine?).length,
      scan.chains.extend hash (lines.filterMap Link.ofLine?)⟩ := by
  induction lines generalizing scan number with
  | nil =>
      cases hscan
      rfl
  | cons line rest ih =>
      rcases scanFrom_cons_ok_iff.mp hscan with ⟨hblank, hscan⟩ | ⟨link, hlink, -, hscan⟩
      · rw [List.filterMap_cons_none hblank.ofLine?_eq]
        exact ih hscan
      · rw [List.filterMap_cons_some hlink, List.length_cons, Nat.add_comm _ 1, ← Nat.add_assoc]
        exact ih hscan

theorem head?_of_scanFrom (hscan : scanFrom hash scan number lines = .ok final) (org : Uuid) :
    final.chains.head? org = lastHead hash (scan.chains.head? org) (linksOf org lines) := by
  rw [eq_of_scanFrom_eq_ok hscan, head?_extend]
  rfl

/-- What is read of one line: nothing of a blank one, and otherwise the entry that it holds. -/
theorem entriesOf_cons_ok_iff {entries : List LedgerEntry} :
    entriesOf (line :: rest) = .ok entries ↔
      (BlankLine line ∧ entriesOf rest = .ok entries) ∨
      ∃ link more, Link.ofLine? line = some link ∧ entriesOf rest = .ok more ∧
        link.entry :: more = entries := by
  rw [entriesOf]
  cases htext : ofUtf8? line with
  | none => simp [lineText, htext, bind, Except.bind, BlankLine, Link.ofLine?]
  | some text =>
      simp only [lineText, htext, bind, Except.bind]
      by_cases hblank : isBlankText text = true
      · have hblankLine : BlankLine line := ⟨text, htext, hblank⟩
        simp [hblank, hblankLine, hblankLine.ofLine?_eq]
      · have hfilled : ¬ BlankLine line := by
          rintro ⟨text', htext', hblank'⟩
          obtain rfl : text = text' := Option.some.inj (htext.symm.trans htext')
          exact hblank hblank'
        have hheld : Link.ofLine? line = (readEntry text).toOption.map (⟨·, text⟩) := by
          simp [Link.ofLine?, htext, hblank]
        rw [if_neg hblank, hheld]
        simp only [hfilled, false_and, false_or]
        cases hread : readEntry text with
        | error e => simp [Except.toOption]
        | ok entry =>
            cases hrest : entriesOf rest with
            | error e => simp [Except.toOption]
            | ok more => simp [Except.toOption, pure, Except.pure]

/-- What is read from some lines are the entries that they hold, if every line can be read. -/
theorem entriesOf_eq_ok_iff {entries : List LedgerEntry} : entriesOf lines = .ok entries ↔
    (∀ line ∈ lines, LegibleLine line) ∧
      (lines.filterMap Link.ofLine?).map (·.entry) = entries := by
  induction lines generalizing entries with
  | nil => simp [entriesOf]
  | cons line rest ih =>
      rw [entriesOf_cons_ok_iff, List.forall_mem_cons]
      constructor
      · rintro (⟨hblank, hrest⟩ | ⟨link, more, hlink, hrest, hentries⟩)
        · obtain ⟨hlegible, hentries⟩ := ih.mp hrest
          refine ⟨⟨Or.inl hblank, hlegible⟩, ?_⟩
          rw [List.filterMap_cons_none hblank.ofLine?_eq, hentries]
        · obtain ⟨hlegible, hmore⟩ := ih.mp hrest
          refine ⟨⟨Or.inr ⟨link, hlink⟩, hlegible⟩, ?_⟩
          rw [List.filterMap_cons_some hlink, List.map_cons, hmore, hentries]
      · rintro ⟨⟨hblank | ⟨link, hlink⟩, hlegible⟩, hentries⟩
        · rw [List.filterMap_cons_none hblank.ofLine?_eq] at hentries
          exact Or.inl ⟨hblank, ih.mpr ⟨hlegible, hentries⟩⟩
        · rw [List.filterMap_cons_some hlink, List.map_cons] at hentries
          exact Or.inr ⟨link, _, hlink, ih.mpr ⟨hlegible, rfl⟩, hentries⟩

end LedgerFile

/-- The lines are accepted from the first one to the last. -/
def Accepted (hash : String → String) (lines : List Bytes) : Prop :=
  ∃ scan, LedgerFile.scanFrom hash {} 1 lines = .ok scan

theorem accepted_iff {lines : List Bytes} : Accepted hash lines ↔
    (∀ line ∈ lines, LegibleLine line) ∧ ∀ org, Linked hash none (linksOf org lines) :=
  LedgerFile.scanFrom_ok_iff hash {} 1 lines

end Mandate
