import Mandate.Proofs.Number.Digits
import Mandate.Uuid
import Mathlib.Tactic.Ring

/-! # Identifiers are read back

The text of an identifier is read as that identifier, so that no two identifiers have one text.
Other written forms are read as well. None of them is another one followed by a colon and more.
-/

namespace Mandate.Uuid

open Mandate.Text

theorem length_digits (n count : Nat) : (digits n count).length = count := by
  induction count with
  | zero => rfl
  | succ count ih => rw [digits, List.length_cons, ih]

/-- The value of the digits is that of the lowest bits of the number. -/
theorem mapM_digits (n count : Nat) : ∃ values, (digits n count).mapM Hex.digit? = some values ∧
    ∀ acc, values.foldl (fun acc d => acc * 16 + d) acc = acc * 16 ^ count + n % 16 ^ count := by
  induction count with
  | zero => exact ⟨[], rfl, fun acc => by simp [Nat.mod_one]⟩
  | succ count ih =>
      obtain ⟨values, hvalues, hfold⟩ := ih
      have hlt : (n >>> (4 * count)) % 16 < 16 := Nat.mod_lt _ (by decide)
      refine ⟨(n >>> (4 * count)) % 16 :: values, ?_, fun acc => ?_⟩
      · rw [digits, List.mapM_cons, digit?_digitChar hlt, hvalues]
        rfl
      · have hshift : n >>> (4 * count) = n / 16 ^ count := by
          rw [Nat.shiftRight_eq_div_pow, Nat.pow_mul]
        rw [List.foldl_cons, hfold, hshift, Nat.mod_pow_succ, Nat.pow_succ]
        ring

/-- The five groups of a text with hyphens. -/
theorem ungroup?_groups {a b c d e : List Char} (ha : a.length = 8) (hb : b.length = 4)
    (hc : c.length = 4) (hd : d.length = 4) (he : e.length = 12) :
    ungroup? (a ++ '-' :: b ++ '-' :: c ++ '-' :: d ++ '-' :: e) =
      some (a ++ b ++ c ++ d ++ e) := by
  have hpast {l : List Char} {m n : Nat} (hl : l.length = m) (hmn : m ≤ n) : l.drop n = [] :=
    List.drop_eq_nil_of_le (hl ▸ hmn)
  simp [ungroup?, ha, hb, hc, hd, he, List.drop_append, List.getElem?_append,
    hpast ha, hpast hb, hpast hc, hpast hd]

theorem unwrapped_cons {c : Char} (hbrace : c ≠ '\x7b') (hletter : c ≠ 'u') (rest : List Char) :
    unwrapped (c :: rest) = c :: rest := by
  rw [unwrapped]
  · rintro more ⟨rfl, -⟩
    exact hbrace rfl
  · rintro more ⟨rfl, -⟩
    exact hletter rfl

theorem ofDigits?_digits {n : Nat} (hn : n < 2 ^ 128) :
    ofDigits? (digits (n >>> 96) 8 ++ digits (n >>> 80) 4 ++ digits (n >>> 64) 4 ++
      digits (n >>> 48) 4 ++ digits n 12) = some ⟨BitVec.ofNat 128 n⟩ := by
  obtain ⟨a, ha, hfoldA⟩ := mapM_digits (n >>> 96) 8
  obtain ⟨b, hb, hfoldB⟩ := mapM_digits (n >>> 80) 4
  obtain ⟨c, hc, hfoldC⟩ := mapM_digits (n >>> 64) 4
  obtain ⟨d, hd, hfoldD⟩ := mapM_digits (n >>> 48) 4
  obtain ⟨e, he, hfoldE⟩ := mapM_digits n 12
  have hvalue : (a ++ b ++ c ++ d ++ e).foldl (fun acc d => acc * 16 + d) 0 = n := by
    simp only [List.foldl_append, hfoldA, hfoldB, hfoldC, hfoldD, hfoldE,
      Nat.shiftRight_eq_div_pow]
    norm_num
    omega
  have hvalues : (digits (n >>> 96) 8 ++ digits (n >>> 80) 4 ++ digits (n >>> 64) 4 ++
      digits (n >>> 48) 4 ++ digits n 12).mapM Hex.digit? = some (a ++ b ++ c ++ d ++ e) := by
    simp only [List.mapM_append, ha, hb, hc, hd, he]
    rfl
  rw [ofDigits?, if_neg (by simp [length_digits]), hvalues, ← hvalue]
  simp

/-- An identifier is read back from its text. -/
theorem ofText?_text (u : Uuid) : ofText? u.text = some u := by
  have htext : u.text.toList = digits (u.bits.toNat >>> 96) 8 ++
      '-' :: digits (u.bits.toNat >>> 80) 4 ++ '-' :: digits (u.bits.toNat >>> 64) 4 ++
      '-' :: digits (u.bits.toNat >>> 48) 4 ++ '-' :: digits u.bits.toNat 12 := by
    rw [text, String.toList_ofList]
  have hunwrapped : unwrapped u.text.toList = u.text.toList := by
    have hfirst : ∀ m < 16, Nat.digitChar m ≠ '\x7b' ∧ Nat.digitChar m ≠ 'u' := by decide
    obtain ⟨hbrace, hletter⟩ := hfirst _ (Nat.mod_lt _ (by decide))
    rw [htext, digits]
    exact unwrapped_cons hbrace hletter _
  rw [ofText?, hunwrapped, htext, if_neg (by simp [length_digits]),
    ungroup?_groups (length_digits _ _) (length_digits _ _) (length_digits _ _)
      (length_digits _ _) (length_digits _ _), Option.bind_some, ofDigits?_digits u.bits.isLt,
    BitVec.ofNat_toNat, BitVec.setWidth_eq]

theorem text_injective : Function.Injective text := fun u v heq => by
  have hread := ofText?_text u
  rw [heq, ofText?_text] at hread
  exact (Option.some.inj hread).symm

/-! ## Identifiers before a colon -/

theorem colon_notMem_of_mapM {s : List Char} {values : List Nat}
    (hvalues : s.mapM Hex.digit? = some values) : ':' ∉ s := by
  induction s generalizing values with
  | nil => exact List.not_mem_nil
  | cons c rest ih =>
      rw [List.mapM_cons] at hvalues
      obtain ⟨value, hvalue, hrest⟩ := Option.bind_eq_some_iff.mp hvalues
      obtain ⟨more, hmore, -⟩ := Option.bind_eq_some_iff.mp hrest
      refine List.not_mem_cons_of_ne_of_not_mem ?_ (ih hmore)
      rintro rfl
      cases hvalue

theorem of_ofDigits? {s : List Char} {u : Uuid} (hread : ofDigits? s = some u) :
    s.length = 32 ∧ ':' ∉ s := by
  unfold ofDigits? at hread
  split at hread
  next => cases hread
  next hlength =>
    obtain ⟨values, hvalues, -⟩ := Option.bind_eq_some_iff.mp hread
    exact ⟨not_not.mp hlength, colon_notMem_of_mapM hvalues⟩

theorem drop_eq_cons {s : List Char} {c : Char} {i : Nat} (hget : s[i]? = some c) :
    s.drop i = c :: s.drop (i + 1) := by
  obtain ⟨hlt, rfl⟩ := List.getElem?_eq_some_iff.mp hget
  exact List.drop_eq_getElem_cons hlt

/-- Where hyphens stand between the groups, there is no other character than in the groups. -/
theorem mem_of_ungroup? {s digits : List Char} (hdigits : ungroup? s = some digits) :
    s.length = 36 ∧ ∀ c ∈ s, c = '-' ∨ c ∈ digits := by
  unfold ungroup? at hdigits
  split at hdigits
  next hgrouped =>
    cases hdigits
    simp only [Bool.and_eq_true, decide_eq_true_eq, List.all_cons, List.all_nil] at hgrouped
    obtain ⟨hlength, h8, h13, h18, h23, -⟩ := hgrouped
    have hgroups : s = s.take 8 ++ '-' :: (s.drop 9).take 4 ++ '-' :: (s.drop 14).take 4 ++
        '-' :: (s.drop 19).take 4 ++ '-' :: s.drop 24 := by
      have hpart (i : Nat) : s.drop i = (s.drop i).take 4 ++ s.drop (i + 4) := by
        rw [← List.drop_drop, List.take_append_drop]
      conv_lhs =>
        rw [← List.take_append_drop 8 s, drop_eq_cons h8, hpart 9, drop_eq_cons h13, hpart 14,
          drop_eq_cons h18, hpart 19, drop_eq_cons h23]
      simp only [List.append_assoc, List.cons_append]
    refine ⟨hlength, fun c hc => ?_⟩
    rw [hgroups] at hc
    simp only [List.mem_append, List.mem_cons] at hc ⊢
    tauto
  next => cases hdigits

theorem unwrapped_cases (s : List Char) : unwrapped s = s ∨ s = '\x7b' :: unwrapped s ++ ['\x7d'] ∨
    s = "urn:uuid:".toList ++ unwrapped s := by
  unfold unwrapped
  split
  next rest =>
    split
    next hclosed =>
      simp only [Bool.and_eq_true, decide_eq_true_eq] at hclosed
      obtain ⟨body, rfl⟩ := List.getLast?_eq_some_iff.mp hclosed.2
      exact .inr (.inl (by simp))
    next => exact .inl rfl
  next => exact .inr (.inr rfl)
  next => exact .inl rfl

/-- A text that is read as an identifier has colons only in the name of the scheme. -/
theorem colon_cases {text : String} {u : Uuid} (hread : ofText? text = some u) :
    (32 ≤ text.toList.length ∧ ':' ∉ text.toList) ∨
      ∃ rest : List Char, rest.length = 36 ∧ text.toList = "urn:uuid:".toList ++ rest := by
  unfold ofText? at hread
  dsimp only at hread
  split at hread
  next hlength => exact .inl ⟨hlength.ge, (of_ofDigits? hread).2⟩
  next =>
    obtain ⟨digits, hdigits, hread⟩ := Option.bind_eq_some_iff.mp hread
    obtain ⟨hlength, hmem⟩ := mem_of_ungroup? hdigits
    have hcolon : ':' ∉ unwrapped text.toList := by
      intro hmember
      rcases hmem ':' hmember with heq | hdigit
      · cases heq
      · exact (of_ofDigits? hread).2 hdigit
    rcases unwrapped_cases text.toList with heq | heq | heq
    · rw [heq] at hcolon hlength
      exact .inl ⟨by omega, hcolon⟩
    · refine .inl ⟨?_, ?_⟩
      · rw [heq]
        simp [hlength]
      · rw [heq]
        simp [hcolon]
    · exact .inr ⟨_, hlength, heq⟩

theorem colon_mem_of_scheme {s more rest : List Char} (hlong : 32 ≤ s.length)
    (heq : s ++ more = "urn:uuid:".toList ++ rest) : ':' ∈ s := by
  have hget : (s ++ more)[3]? = some ':' := by rw [heq]; rfl
  rw [List.getElem?_append_left (by omega)] at hget
  exact List.mem_of_getElem? hget

theorem takeWhile_colon {s : List Char} (hcolon : ':' ∉ s) (more : List Char) :
    (s ++ ':' :: more).takeWhile (· != ':') = s := by
  have hbefore : ∀ c ∈ s, (c != ':') = true := fun c hc =>
    bne_iff_ne.mpr fun heq => hcolon (heq ▸ hc)
  rw [List.takeWhile_append_of_pos hbefore, List.takeWhile_cons_of_neg (by decide),
    List.append_nil]

/-- Where a colon and more follow a text that is read as an identifier, that text is known. -/
theorem eq_of_append_colon {text text' : String} {u u' : Uuid} (hread : ofText? text = some u)
    (hread' : ofText? text' = some u') {more more' : List Char}
    (heq : text.toList ++ ':' :: more = text'.toList ++ ':' :: more') :
    text = text' ∧ more = more' := by
  rcases colon_cases hread with ⟨hlong, hcolon⟩ | ⟨rest, hlength, htext⟩ <;>
    rcases colon_cases hread' with ⟨hlong', hcolon'⟩ | ⟨rest', hlength', htext'⟩
  · have htext : text.toList = text'.toList := by
      rw [← takeWhile_colon hcolon more, heq, takeWhile_colon hcolon' more']
    rw [htext] at heq
    exact ⟨String.toList_injective htext, (List.cons.inj (List.append_cancel_left heq)).2⟩
  · rw [htext', List.append_assoc] at heq
    exact absurd (colon_mem_of_scheme hlong heq) hcolon
  · rw [htext, List.append_assoc] at heq
    exact absurd (colon_mem_of_scheme hlong' heq.symm) hcolon'
  · have hlengths : text.toList.length = text'.toList.length := by
      rw [htext, htext', List.length_append, List.length_append, hlength, hlength']
    obtain ⟨htext, hmore⟩ := List.append_inj heq hlengths
    exact ⟨String.toList_injective htext, (List.cons.inj hmore).2⟩

end Mandate.Uuid
