import Mandate.Text.Bytes
import Mandate.Text.LineEdit
import Mathlib.Data.List.DropRight

/-! # Bytes of texts, and lines of files

A text is determined by its bytes and the other way round. Only a newline has the byte of one, so
the lines of a file that was written line by line are the texts that were written.
-/

namespace Mandate.Text

theorem toList_loop (bytes : ByteArray) (i : Nat) (seen : List UInt8) :
    ByteArray.toList.loop bytes i seen = seen.reverse ++ bytes.data.toList.drop i := by
  fun_induction ByteArray.toList.loop bytes i seen with
  | case1 i seen hi ih =>
      have hlength : i < bytes.data.toList.length := hi
      have hbyte : bytes.get! i = bytes.data.toList[i] := by
        cases bytes with
        | mk data =>
            change data[i]! = data[i]
            exact getElem!_pos data i hi
      rw [ih, List.reverse_cons, List.append_assoc, List.singleton_append, hbyte,
        List.getElem_cons_drop]
  | case2 i seen hi =>
      have hlength : bytes.data.toList.length ≤ i := Nat.le_of_not_lt hi
      rw [List.drop_eq_nil_of_le hlength, List.append_nil]

theorem toByteArray_toList (bytes : ByteArray) : bytes.toList.toByteArray = bytes := by
  apply ByteArray.ext
  rw [List.data_toByteArray, ByteArray.toList, toList_loop]
  simp

theorem utf8_toByteArray (s : String) : (utf8 s).toByteArray = s.toByteArray :=
  toByteArray_toList s.toByteArray

/-- A text is read back from its bytes. -/
theorem ofUtf8?_utf8 (s : String) : ofUtf8? (utf8 s) = some s := by
  rw [ofUtf8?, utf8_toByteArray, String.fromUTF8?, dif_pos s.isValidUTF8]
  rfl

/-- Only the bytes of a text are read as that text. -/
theorem utf8_of_ofUtf8? {bytes : List UInt8} {s : String} (hread : ofUtf8? bytes = some s) :
    utf8 s = bytes := by
  unfold ofUtf8? String.fromUTF8? at hread
  split at hread
  next hvalid =>
    obtain rfl := Option.some.inj hread
    apply List.toByteArray_inj.mp
    exact utf8_toByteArray _
  next => cases hread

theorem ofUtf8?_inj {a b : List UInt8} {s : String} (ha : ofUtf8? a = some s)
    (hb : ofUtf8? b = some s) : a = b :=
  (utf8_of_ofUtf8? ha).symm.trans (utf8_of_ofUtf8? hb)

/-- The bytes of a text are those of its characters. -/
theorem utf8_eq_flatMap (s : String) : utf8 s = s.toList.flatMap String.utf8EncodeChar := by
  apply List.toByteArray_inj.mp
  rw [utf8_toByteArray, ← String.utf8Encode_toList]
  rfl

theorem utf8_append (s t : String) : utf8 (s ++ t) = utf8 s ++ utf8 t := by
  rw [utf8_eq_flatMap, utf8_eq_flatMap, utf8_eq_flatMap, String.toList_append,
    List.flatMap_append]

theorem utf8_empty : utf8 "" = [] := by
  rw [utf8_eq_flatMap]
  rfl

theorem utf8EncodeChar_ne_nil (c : Char) : String.utf8EncodeChar c ≠ [] := by
  rw [← List.length_pos_iff, String.length_utf8EncodeChar]
  exact c.utf8Size_pos

/-- A byte below 128 is the only one of its character, and its number is that of the character. -/
theorem utf8EncodeChar_of_mem {c : Char} {b : UInt8} (hmem : b ∈ String.utf8EncodeChar c)
    (hb : b.toNat < 128) : String.utf8EncodeChar c = [b] ∧ c.toNat = b.toNat := by
  have hbyte : ∀ n, b = UInt8.ofNat n ↔ b.toNat = n % 256 := by
    intro n
    rw [← UInt8.toNat_inj]
    simp
  unfold String.utf8EncodeChar at hmem ⊢
  dsimp only at hmem ⊢
  -- the bytes of a longer encoding are all larger than those of ASCII characters
  split at hmem
  next hascii =>
    obtain rfl := List.mem_singleton.mp hmem
    rw [if_pos hascii]
    refine ⟨rfl, ?_⟩
    change c.toNat = _ % 256
    have hc : c.toNat ≤ 127 := hascii
    change c.toNat = c.toNat % 256
    omega
  next =>
    exfalso
    split at hmem
    · simp only [List.mem_cons, List.not_mem_nil, or_false, hbyte] at hmem
      omega
    · split at hmem
      · simp only [List.mem_cons, List.not_mem_nil, or_false, hbyte] at hmem
        omega
      · simp only [List.mem_cons, List.not_mem_nil, or_false, hbyte] at hmem
        omega

theorem newline_mem_utf8_iff (s : String) : 10 ∈ utf8 s ↔ '\n' ∈ s.toList := by
  rw [utf8_eq_flatMap, List.mem_flatMap]
  constructor
  · rintro ⟨c, hc, hmem⟩
    have hnewline : c = '\n' := Char.toNat_inj.mp (utf8EncodeChar_of_mem hmem (by decide)).2
    exact hnewline ▸ hc
  · intro hnewline
    exact ⟨_, hnewline, by decide⟩

theorem utf8_inj {s t : String} (heq : utf8 s = utf8 t) : s = t := by
  have hread := ofUtf8?_utf8 s
  rw [heq, ofUtf8?_utf8] at hread
  exact (Option.some.inj hread).symm

theorem utf8_eq_nil_iff {s : String} : utf8 s = [] ↔ s = "" := by
  constructor
  · intro hnil
    exact utf8_inj (hnil.trans utf8_empty.symm)
  · rintro rfl
    exact utf8_empty

theorem utf8EncodeChar_of_ascii {c : Char} (hc : c.toNat < 128) :
    String.utf8EncodeChar c = [c.toNat.toUInt8] := by
  unfold String.utf8EncodeChar
  dsimp only
  rw [if_pos]
  · rfl
  · exact Nat.le_of_lt_succ hc

/-- Where the bytes of a text that begins with an ASCII character stand at the end of those of
another, the text itself does. -/
theorem exists_before_of_flatMap {c : Char} {rest chars : List Char} {bytes : List UInt8}
    (hc : c.toNat < 128)
    (heq : chars.flatMap String.utf8EncodeChar =
      bytes ++ (c :: rest).flatMap String.utf8EncodeChar) :
    ∃ before, chars = before ++ c :: rest := by
  have hfirst : (c :: rest).flatMap String.utf8EncodeChar =
      c.toNat.toUInt8 :: rest.flatMap String.utf8EncodeChar := by
    rw [List.flatMap_cons, utf8EncodeChar_of_ascii hc]
    rfl
  induction chars generalizing bytes with
  | nil =>
      rw [hfirst] at heq
      exact absurd heq.symm (by simp)
  | cons d chars ih =>
      rw [List.flatMap_cons, List.append_eq_append_iff] at heq
      rcases heq with ⟨more, -, heq⟩ | ⟨more, hd, heq⟩
      · obtain ⟨before, rfl⟩ := ih heq
        exact ⟨d :: before, rfl⟩
      · cases bytes with
        | nil =>
            have hutf8 : utf8 (String.ofList (c :: rest)) = utf8 (String.ofList (d :: chars)) := by
              rw [utf8_eq_flatMap, utf8_eq_flatMap, String.toList_ofList, String.toList_ofList,
                heq, List.flatMap_cons, hd]
              rfl
            exact ⟨[], (String.ofList_injective (utf8_inj hutf8)).symm⟩
        | cons b bytes =>
            cases more with
            | nil =>
                have hsame : chars.flatMap String.utf8EncodeChar =
                    [] ++ (c :: rest).flatMap String.utf8EncodeChar := heq.symm
                obtain ⟨before, rfl⟩ := ih hsame
                exact ⟨d :: before, rfl⟩
            | cons b' more =>
                -- the first byte of the second text would be in the middle of a character
                rw [hfirst, List.cons_append, List.cons.injEq] at heq
                have hmem : b' ∈ String.utf8EncodeChar d := by simp [hd]
                have hb' : b'.toNat < 128 := by
                  rw [← heq.1]
                  simp
                  omega
                have hone := (utf8EncodeChar_of_mem hmem hb').1
                rw [hd] at hone
                simp at hone

theorem exists_before_of_utf8 {s t : String} {bytes : List UInt8} {c : Char} {rest : List Char}
    (ht : t.toList = c :: rest) (hc : c.toNat < 128) (heq : utf8 s = bytes ++ utf8 t) :
    ∃ before, s.toList = before ++ t.toList := by
  rw [utf8_eq_flatMap, utf8_eq_flatMap, ht] at heq
  rw [ht]
  exact exists_before_of_flatMap hc heq

/-! ## Lines -/

theorem lines_cons_of_ne {b : UInt8} {rest : List UInt8} (hnewline : b ≠ 10)
    (hreturn : ¬ (b = 13 ∧ rest.head? = some 10)) :
    lines (b :: rest) = match lines rest with
      | [] => [[b]]
      | line :: more => (b :: line) :: more := by
  have hkept : ∀ tail, b = 13 → rest = 10 :: tail → False := by
    rintro tail rfl rfl
    exact hreturn ⟨rfl, rfl⟩
  exact lines.eq_4 b rest hnewline hkept

/-- A line that was written with a newline after it is the first one that is read, unless a
carriage return at its end is dropped. -/
theorem lines_append_newline {line : List UInt8} (hnewline : 10 ∉ line)
    (hreturn : line.getLast? ≠ some 13) (rest : List UInt8) :
    lines (line ++ 10 :: rest) = line :: lines rest := by
  induction line with
  | nil => simp [lines]
  | cons b more ih =>
      have hb : b ≠ 10 := fun heq => hnewline (heq ▸ List.mem_cons_self)
      have hmore : 10 ∉ more := fun hmem => hnewline (List.mem_cons_of_mem b hmem)
      rw [List.cons_append, lines_cons_of_ne hb]
      · cases more with
        | nil => simp [lines]
        | cons c tail =>
            rw [ih hmore (by simpa using hreturn)]
      · rintro ⟨rfl, hhead⟩
        cases more with
        | nil => exact hreturn rfl
        | cons c tail =>
            obtain rfl : c = 10 := by simpa using hhead
            exact hmore List.mem_cons_self

/-- The lines of a file are those that it was made of, if none of them contains the end of one. -/
theorem lines_ofLines {content : List (List UInt8)}
    (hlines : ∀ line ∈ content, 10 ∉ line ∧ line.getLast? ≠ some 13) :
    lines (ofLines content) = content := by
  induction content with
  | nil => rfl
  | cons line rest ih =>
      obtain ⟨⟨hnewline, hreturn⟩, hrest⟩ := List.forall_mem_cons.mp hlines
      rw [ofLines, List.flatMap_cons, List.append_assoc, List.singleton_append,
        lines_append_newline hnewline hreturn, ← ofLines, ih hrest]

theorem ofLines_append (content more : List (List UInt8)) :
    ofLines (content ++ more) = ofLines content ++ ofLines more :=
  List.flatMap_append

/-- What stands behind the last newline of a file: the last line, if it lacks its newline. -/
def unfinished (content : List UInt8) : List UInt8 := content.rtakeWhile (· != 10)

/-- A file up to its last newline. -/
def finished (content : List UInt8) : List UInt8 := content.rdropWhile (· != 10)

theorem finished_append_unfinished (content : List UInt8) :
    finished content ++ unfinished content = content :=
  List.rdropWhile_append_rtakeWhile

theorem newline_notMem_unfinished (content : List UInt8) : 10 ∉ unfinished content := by
  intro hmem
  have hne := List.mem_rtakeWhile_imp hmem
  cases hne

theorem unfinished_of_notMem {line : List UInt8} (hnewline : 10 ∉ line) :
    unfinished line = line := by
  rw [unfinished, List.rtakeWhile_eq_self_iff]
  intro b hb
  exact bne_iff_ne.mpr fun heq => hnewline (heq ▸ hb)

/-- Written lines are all finished. -/
theorem unfinished_ofLines (content : List (List UInt8)) : unfinished (ofLines content) = [] := by
  rcases List.eq_nil_or_concat content with rfl | ⟨before, line, rfl⟩
  · rfl
  · have hlast : ofLines (before.concat line) = ofLines before ++ line ++ [10] := by
      simp [ofLines]
    rw [hlast, unfinished, List.rtakeWhile_concat_neg _ _ _ (by simp)]

theorem getLast?_finished (content : List UInt8) :
    finished content = [] ∨ (finished content).getLast? = some 10 := by
  by_cases hnil : finished content = []
  · exact Or.inl hnil
  · right
    have hlast : (finished content).getLast hnil = 10 := by
      have hnot := List.rdropWhile_last_not (· != (10 : UInt8)) content hnil
      rwa [bne_iff_ne, not_not] at hnot
    rw [List.getLast?_eq_some_getLast hnil, hlast]

theorem lines_cons_ne_nil (b : UInt8) (rest : List UInt8) : lines (b :: rest) ≠ [] := by
  unfold lines
  split
  next heq => cases heq
  next => exact List.cons_ne_nil _ _
  next => exact List.cons_ne_nil _ _
  next => split <;> exact List.cons_ne_nil _ _

/-- What follows a newline begins a line of its own. -/
theorem lines_append {whole : List UInt8} (hwhole : whole = [] ∨ whole.getLast? = some 10)
    (rest : List UInt8) : lines (whole ++ rest) = lines whole ++ lines rest := by
  fun_induction lines whole with
  | case1 => rfl
  | case2 more ih =>
      rw [List.cons_append, lines, List.cons_append, ih]
      cases more with
      | nil => exact Or.inl rfl
      | cons b more => exact Or.inr (by simpa using hwhole)
  | case3 more ih =>
      rw [List.cons_append, List.cons_append, lines, List.cons_append, ih]
      cases more with
      | nil => exact Or.inl rfl
      | cons b more => exact Or.inr (by simpa using hwhole)
  | case4 b more hb hkept hnone ih =>
      cases more with
      | nil => exact absurd (by simpa using hwhole) hb
      | cons c tail => exact absurd hnone (lines_cons_ne_nil c tail)
  | case5 b more hb hkept line others hlines ih =>
      cases more with
      | nil => cases hlines
      | cons c tail =>
          have hreturn : ¬ (b = 13 ∧ (c :: tail ++ rest).head? = some 10) := by
            rintro ⟨rfl, hc⟩
            obtain rfl : c = 10 := by simpa using hc
            exact hkept tail rfl rfl
          rw [List.cons_append, lines_cons_of_ne hb hreturn,
            ih (Or.inr (by simpa using hwhole)), hlines]
          rfl

/-- Without a newline there is but one line. -/
theorem lines_of_notMem {line : List UInt8} (hnewline : 10 ∉ line) (hne : line ≠ []) :
    lines line = [line] := by
  induction line with
  | nil => exact absurd rfl hne
  | cons b more ih =>
      obtain ⟨hb, hmore⟩ := not_or.mp (List.mem_cons.not.mp hnewline)
      have hreturn : ¬ (b = 13 ∧ more.head? = some 10) :=
        fun hkept => hmore (List.mem_of_mem_head? hkept.2)
      rw [lines_cons_of_ne (Ne.symm hb) hreturn]
      cases more with
      | nil => rfl
      | cons c tail => rw [ih hmore (List.cons_ne_nil c tail)]

theorem lines_eq_append_unfinished (content : List UInt8) : lines content =
    lines (finished content) ++ if unfinished content = [] then [] else [unfinished content] := by
  conv_lhs => rw [← finished_append_unfinished content, lines_append (getLast?_finished content)]
  split
  next hnil => rw [hnil, lines]
  next hne => rw [lines_of_notMem (newline_notMem_unfinished content) hne]

/-- Lines that are written behind a file go on with its last line, if that lacks its newline. -/
theorem lines_append_ofLines (content : List UInt8) {line : List UInt8} {more : List (List UInt8)}
    (hlines : ∀ written ∈ line :: more, 10 ∉ written)
    (hreturn : ∀ before, ∀ written ∈ line :: more, (before ++ written).getLast? ≠ some 13) :
    lines (content ++ ofLines (line :: more)) =
      lines (finished content) ++ (unfinished content ++ line) :: more := by
  have hlayout : content ++ ofLines (line :: more) =
      finished content ++ ofLines ((unfinished content ++ line) :: more) := by
    conv_lhs => rw [← finished_append_unfinished content]
    simp only [ofLines, List.flatMap_cons, List.append_assoc]
  rw [hlayout, lines_append (getLast?_finished content), lines_ofLines]
  obtain ⟨hline, hmore⟩ := List.forall_mem_cons.mp hlines
  rw [List.forall_mem_cons]
  refine ⟨⟨?_, hreturn _ line List.mem_cons_self⟩, fun written hwritten =>
    ⟨hmore written hwritten, hreturn [] written (List.mem_cons_of_mem _ hwritten)⟩⟩
  rw [List.mem_append, not_or]
  exact ⟨newline_notMem_unfinished content, hline⟩

end Mandate.Text
