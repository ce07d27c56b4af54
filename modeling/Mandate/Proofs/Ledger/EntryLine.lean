import Mandate.Proofs.Json.OneLine
import Mandate.Proofs.Ledger.Chain
import Mandate.Proofs.Ledger.ReadBack
import Mandate.Proofs.Text.Bytes

/-! # The line of an entry

The line of an entry is the text of an object. It has no line break in it, and it is never blank. If
anything that begins like an entry stands in front of it on the same line, the line cannot be read.
-/

namespace Mandate

open Mandate.Json Mandate.Text

namespace LedgerEntry

variable (e : LedgerEntry)

/-- The line of an entry, as bytes. -/
def lineBytes : Bytes := utf8 e.line

/-- The link of a chain that the entry is, on its own line. -/
def link : Link := ⟨e, e.line⟩

theorem toList_line :
    e.line.toList = '\x7b' :: (Value.memberChars e.members ++ ['\x7d']) := by
  rw [line, Value.text, String.toList_ofList, json_eq, Value.chars]
  rfl

/-- The line begins with the name of the first member. -/
theorem exists_toList_line : ∃ rest, e.line.toList = '\x7b' :: '"' :: 'e' :: rest ∧
    ∀ depth, Standing.run? ⟨.between, depth + 1⟩ ('"' :: 'e' :: rest) =
      some ⟨.between, depth⟩ := by
  obtain ⟨rest, hrest⟩ : ∃ rest, Value.memberChars e.members ++ ['\x7d'] = '"' :: 'e' :: rest :=
    ⟨_, rfl⟩
  refine ⟨rest, by rw [toList_line, hrest], fun depth => ?_⟩
  rw [← hrest]
  exact run?_object depth e.members

theorem newline_notMem_lineBytes : 10 ∉ e.lineBytes := by
  rw [lineBytes, newline_mem_utf8_iff, line, Value.text, String.toList_ofList]
  exact newline_notMem_chars e.json

/-- A line never ends with a carriage return. -/
theorem getLast?_append_lineBytes (before : Bytes) :
    (before ++ e.lineBytes).getLast? ≠ some 13 := by
  have hbytes : e.lineBytes =
      ('\x7b' :: Value.memberChars e.members).flatMap String.utf8EncodeChar ++ [125] := by
    rw [lineBytes, utf8_eq_flatMap, toList_line, ← List.cons_append, List.flatMap_append]
    rfl
  rw [hbytes, ← List.append_assoc, List.getLast?_concat]
  decide

theorem isBlankText_line : isBlankText e.line = false := by
  rw [isBlankText, toList_line]
  rfl

/-- An entry that is read back is what its line holds. -/
theorem ReadsBack.ofLine? {e : LedgerEntry} (hback : e.ReadsBack) :
    Link.ofLine? e.lineBytes = some e.link :=
  Link.ofLine?_eq_some_iff.mpr ⟨ofUtf8?_utf8 e.line, e.isBlankText_line, hback⟩

theorem not_blank_lineBytes : ¬ BlankLine e.lineBytes := by
  rintro ⟨text, htext, hblank⟩
  rw [lineBytes, ofUtf8?_utf8] at htext
  rw [← Option.some.inj htext, e.isBlankText_line] at hblank
  cases hblank

theorem readsBack_of_ofLine? {e : LedgerEntry} {link : Link}
    (hlink : Link.ofLine? e.lineBytes = some link) (hentry : link.entry = e) : e.ReadsBack := by
  obtain ⟨htext, -, hread⟩ := Link.ofLine?_eq_some_iff.mp hlink
  have hline : e.line = link.line := Option.some.inj ((ofUtf8?_utf8 e.line).symm.trans htext)
  rw [← hline, hentry] at hread
  exact hread

end LedgerEntry

/-! ## Beginnings of lines -/

/-- The bytes begin like the line of an entry. -/
def BeginsEntry (bytes : Bytes) : Prop := bytes.head? = some 123

variable {bytes : Bytes}

theorem LedgerEntry.beginsEntry_lineBytes (e : LedgerEntry) : BeginsEntry e.lineBytes := by
  rw [BeginsEntry, lineBytes, utf8_eq_flatMap, toList_line]
  rfl

theorem BeginsEntry.take (hbegins : BeginsEntry bytes) {count : Nat} (hcount : count ≠ 0) :
    BeginsEntry (bytes.take count) := by
  obtain ⟨count, rfl⟩ := Nat.exists_eq_succ_of_ne_zero hcount
  cases bytes with
  | nil => cases hbegins
  | cons b bytes => exact hbegins

theorem BeginsEntry.ne_nil (hbegins : BeginsEntry bytes) : bytes ≠ [] := by
  rintro rfl
  cases hbegins

theorem BeginsEntry.append (hbegins : BeginsEntry bytes) (after : Bytes) :
    BeginsEntry (bytes ++ after) := by
  cases bytes with
  | nil => cases hbegins
  | cons b bytes => exact hbegins

/-- The text of bytes that begin like an entry begins like an object. -/
theorem BeginsEntry.exists_toList {text : String} (hbegins : BeginsEntry bytes)
    (htext : ofUtf8? bytes = some text) : ∃ rest, text.toList = '\x7b' :: rest := by
  have hbytes := utf8_of_ofUtf8? htext
  rw [utf8_eq_flatMap] at hbytes
  subst hbytes
  cases hchars : text.toList with
  | nil =>
      rw [hchars] at hbegins
      cases hbegins
  | cons c rest =>
      have hmem : 123 ∈ String.utf8EncodeChar c := by
        obtain ⟨b, more, hencoded⟩ := List.exists_cons_of_ne_nil (utf8EncodeChar_ne_nil c)
        rw [hchars, BeginsEntry, List.flatMap_cons, hencoded] at hbegins
        rw [hencoded]
        exact List.mem_cons.mpr (Or.inl (Option.some.inj hbegins).symm)
      have hc : c = '\x7b' := Char.toNat_inj.mp (utf8EncodeChar_of_mem hmem (by decide)).2
      exact ⟨rest, by rw [hc]⟩

theorem BeginsEntry.not_blank (hbegins : BeginsEntry bytes) : ¬ BlankLine bytes := by
  rintro ⟨text, htext, hblank⟩
  obtain ⟨rest, hrest⟩ := hbegins.exists_toList htext
  rw [isBlankText, hrest] at hblank
  cases hblank

/-- Nothing is read of a text in which a container begins in front of an entry. -/
theorem LedgerEntry.ofText?_behind_opening (e : LedgerEntry) {text : String}
    {before more : List Char} {o : Char} (ho : o = '[' ∨ o = '\x7b')
    (hbefore : skipSpace before = o :: more) (htext : text.toList = before ++ e.line.toList) :
    Tree.ofText? text = none := by
  obtain ⟨object, hobject, hrun⟩ := e.exists_toList_line
  have hletter : ∀ depth, Standing.step? ⟨.closed, depth⟩ 'e' = none := by
    intro depth
    cases depth <;> rfl
  have hskip : skipSpace text.toList = o :: (more ++ '\x7b' :: '"' :: 'e' :: object) := by
    rw [skipSpace] at hbefore
    rw [htext, hobject, skipSpace, List.dropWhile_append, hbefore]
    rfl
  exact ofText?_eq_none_of_before hletter hrun ho hskip

/-- A line is not legible if anything stands in front of the entry that begins like one. -/
theorem BeginsEntry.not_legible (hbegins : BeginsEntry bytes) (e : LedgerEntry) :
    ¬ LegibleLine (bytes ++ e.lineBytes) := by
  rintro (hblank | ⟨link, hlink⟩)
  · exact (hbegins.append _).not_blank hblank
  · obtain ⟨htext, -, hread⟩ := Link.ofLine?_eq_some_iff.mp hlink
    obtain ⟨object, hobject, -⟩ := e.exists_toList_line
    obtain ⟨before, hbefore⟩ := exists_before_of_utf8 hobject (by decide) (utf8_of_ofUtf8? htext)
    obtain ⟨rest, hrest⟩ := (hbegins.append e.lineBytes).exists_toList htext
    cases before with
    | nil =>
        rw [List.nil_append] at hbefore
        have hline : link.line = e.line := String.toList_injective hbefore
        have hbytes := utf8_of_ofUtf8? htext
        rw [hline, ← LedgerEntry.lineBytes, List.self_eq_append_left] at hbytes
        rw [hbytes] at hbegins
        cases hbegins
    | cons c before =>
        obtain rfl : c = '\x7b' := by
          rw [hbefore, List.cons_append, List.cons.injEq] at hrest
          exact hrest.1
        rw [Chains.readEntry, e.ofText?_behind_opening (Or.inr rfl) (skipSpace_cons rfl) hbefore]
          at hread
        cases hread

end Mandate
