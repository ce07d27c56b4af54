import Mandate.Proofs.Json.Nesting
import Mandate.Proofs.Json.RoundTrip
import Mathlib.Data.Set.Function

/-! # Where the text of a document ends

The text of a document tells by itself where it ends: a string ends with its closing quote, a
container with its last bracket, and a word or a number where something follows that may stand in
neither. So documents that are printed one behind the other can be told apart again, as long as the
texts of their numbers tell which numbers they are.
-/

namespace Mandate.Json

open Text Standing

variable {text other rest more : List Char} {c : Char}

/-! ## Words, numbers and strings -/

/-- The text does not go on with anything that may stand in a word or a number. -/
def EndsPlain (rest : List Char) : Prop := ∀ c ∈ rest.head?, isPlain c = false

theorem endsPlain_nil : EndsPlain [] := by
  intro c hc
  cases hc

theorem endsPlain_cons (hc : isPlain c = false) (more : List Char) : EndsPlain (c :: more) := by
  intro d hd
  obtain rfl : c = d := by simpa using hd
  exact hc

theorem takeWhile_isPlain (htext : ∀ c ∈ text, isPlain c = true) (hrest : EndsPlain rest) :
    (text ++ rest).takeWhile isPlain = text := by
  rw [List.takeWhile_append_of_pos htext]
  cases rest with
  | nil => simp
  | cons c rest =>
      have hc : ¬ isPlain c = true := by simp [hrest c rfl]
      rw [List.takeWhile_cons_of_neg hc, List.append_nil]

/-- A word or a number goes on as far as characters follow that may stand in it. -/
theorem plain_append_inj (htext : ∀ c ∈ text, isPlain c = true)
    (hother : ∀ c ∈ other, isPlain c = true) (hrest : EndsPlain rest) (hmore : EndsPlain more)
    (heq : text ++ rest = other ++ more) : text = other ∧ rest = more := by
  have hsame : text = other := by
    rw [← takeWhile_isPlain htext hrest, heq, takeWhile_isPlain hother hmore]
  subst hsame
  exact ⟨rfl, List.append_cancel_left heq⟩

/-- A printed string goes on as far as its closing quote. -/
theorem quoted_append_inj {s t : String} (heq : quoted s ++ rest = quoted t ++ more) :
    s = t ∧ rest = more := by
  have hbehind : s.toList.flatMap escaped ++ '"' :: rest =
      t.toList.flatMap escaped ++ '"' :: more := by
    simpa [quoted] using heq
  obtain ⟨pieces, hread, hstring⟩ := pieces?_quoted s rest
  obtain ⟨pieces', hread', hstring'⟩ := pieces?_quoted t more
  rw [hbehind, hread'] at hread
  cases hread
  exact ⟨Option.some.inj (hstring.symm.trans hstring'), rfl⟩

/-- The text of an integer tells which one it is. -/
theorem Number.int_chars_inj {m n : Int} (heq : (Number.int m).chars = (Number.int n).chars) :
    m = n := by
  have hsign {k : Nat} {digits : List Char} : '-' :: digits ≠ Nat.toDigits 10 k := by
    intro hdigits
    have hdigit : isDigit '-' = true := isDigit_of_mem_toDigits (n := k) (by simp [← hdigits])
    cases hdigit
  have hvalue {k l : Nat} (hdigits : Nat.toDigits 10 k = Nat.toDigits 10 l) : k = l := by
    rw [← digitsValue_toDigits k, hdigits, digitsValue_toDigits]
  simp only [chars] at heq
  split at heq <;> split at heq
  next =>
    have habs := hvalue (List.cons.inj heq).2
    omega
  next => exact absurd heq hsign
  next => exact absurd heq.symm hsign
  next =>
    have habs := hvalue heq
    omega

/-! ## Kinds of documents -/

/-- The kinds of documents. -/
inductive Kind where
  | null
  | bool
  | number
  | string
  | array
  | object

/-- The kind of a document. -/
def Value.kind : Value → Kind
  | .null => .null
  | .bool _ => .bool
  | .number _ => .number
  | .string _ => .string
  | .array _ => .array
  | .object _ => .object

/-- The kind of the documents whose texts begin with a character. -/
def Kind.ofChar (c : Char) : Kind :=
  if c = 'n' then .null
  else if c = 't' ∨ c = 'f' then .bool
  else if c = '"' then .string
  else if c = '[' then .array
  else if c = '\x7b' then .object
  else .number

theorem Kind.ofChar_digit (hdigit : isDigit c = true) : ofChar c = .number := by
  have hne {d : Char} (hd : isDigit d = false) : c ≠ d := by
    rintro rfl
    rw [hdigit] at hd
    cases hd
  rw [ofChar, if_neg (hne rfl), if_neg (not_or.mpr ⟨hne rfl, hne rfl⟩), if_neg (hne rfl),
    if_neg (hne rfl), if_neg (hne rfl)]

/-- The first character tells the kind of a document. -/
theorem Value.exists_chars_cons (v : Value) :
    ∃ c more, v.chars = c :: more ∧ Kind.ofChar c = v.kind := by
  cases v with
  | null => exact ⟨_, _, rfl, rfl⟩
  | bool b => cases b <;> exact ⟨_, _, rfl, rfl⟩
  | number n =>
      obtain ⟨text, hnumeral, hchars | hchars⟩ := n.exists_numeral
      · exact ⟨_, _, hchars, rfl⟩
      · obtain ⟨c, more, rfl, hdigit⟩ := hnumeral.exists_cons
        exact ⟨_, _, hchars, Kind.ofChar_digit hdigit⟩
  | string s => exact ⟨_, _, rfl, rfl⟩
  | array items => exact ⟨_, _, rfl, rfl⟩
  | object members => exact ⟨_, _, rfl, rfl⟩

theorem Value.kind_eq {v w : Value} (heq : v.chars ++ rest = w.chars ++ more) :
    v.kind = w.kind := by
  obtain ⟨c, text, hv, hkind⟩ := v.exists_chars_cons
  obtain ⟨d, other, hw, hkind'⟩ := w.exists_chars_cons
  rw [hv, hw, List.cons_append, List.cons_append] at heq
  rw [← hkind, ← hkind', (List.cons.inj heq).1]

theorem bool_append_inj {a b : Bool}
    (heq : (Value.bool a).chars ++ rest = (Value.bool b).chars ++ more) : a = b ∧ rest = more := by
  cases a <;> cases b <;> simp_all [Value.chars]

/-! ## Items and members -/

/-- What stands behind an item of an array: the items after it and the closing bracket, and then
the rest of the text. -/
def itemsEnd (rest : List Char) : List Value → List Char
  | [] => ']' :: rest
  | v :: more => ',' :: (v.chars ++ itemsEnd rest more)

/-- What stands behind a member of an object. -/
def membersEnd (rest : List Char) : Members → List Char
  | [] => '\x7d' :: rest
  | (key, v) :: more => ',' :: (quoted key ++ ':' :: (v.chars ++ membersEnd rest more))

theorem endsPlain_itemsEnd (rest : List Char) (items : List Value) :
    EndsPlain (itemsEnd rest items) := by
  cases items <;> exact endsPlain_cons rfl _

theorem endsPlain_membersEnd (rest : List Char) (members : Members) :
    EndsPlain (membersEnd rest members) := by
  cases members <;> exact endsPlain_cons rfl _

theorem itemChars_append (rest : List Char) (v : Value) (more : List Value) :
    Value.itemChars (v :: more) ++ ']' :: rest = v.chars ++ itemsEnd rest more := by
  induction more generalizing v with
  | nil => rfl
  | cons w more ih =>
      rw [Value.itemChars, List.append_assoc, List.cons_append, ih w, itemsEnd]
      exact List.cons_ne_nil w more

theorem memberChars_append (rest : List Char) (key : String) (v : Value) (more : Members) :
    Value.memberChars ((key, v) :: more) ++ '\x7d' :: rest =
      quoted key ++ ':' :: (v.chars ++ membersEnd rest more) := by
  induction more generalizing key v with
  | nil => simp [Value.memberChars, membersEnd]
  | cons member more ih =>
      have hchars : Value.memberChars ((key, v) :: member :: more) =
          quoted key ++ ':' :: v.chars ++ ',' :: Value.memberChars (member :: more) := by
        rw [Value.memberChars]
        exact List.cons_ne_nil member more
      rw [hchars, List.append_assoc, List.append_assoc, List.cons_append, List.cons_append,
        ih member.1 member.2, membersEnd]

theorem not_beginsApart_cons {close : Char} : ¬ BeginsApart close (close :: rest) := by
  rintro ⟨c, more, heq, -, hclose⟩
  exact hclose (List.cons.inj heq).1.symm

/-- An empty array is not taken for the beginning of one with items. -/
theorem itemsEnd_eq {items items' : List Value}
    (heq : Value.itemChars items ++ ']' :: rest = Value.itemChars items' ++ ']' :: more) :
    itemsEnd rest items = itemsEnd more items' := by
  cases items with
  | nil =>
      cases items' with
      | nil => exact heq
      | cons w ws => exact absurd (heq ▸ (beginsApart_itemChars w ws).append _) not_beginsApart_cons
  | cons v vs =>
      cases items' with
      | nil =>
          exact absurd (heq ▸ (beginsApart_itemChars v vs).append _) not_beginsApart_cons
      | cons w ws =>
          rw [itemChars_append, itemChars_append] at heq
          rw [itemsEnd, itemsEnd, heq]

theorem membersEnd_eq {members members' : Members}
    (heq : Value.memberChars members ++ '\x7d' :: rest =
      Value.memberChars members' ++ '\x7d' :: more) :
    membersEnd rest members = membersEnd more members' := by
  cases members with
  | nil =>
      cases members' with
      | nil => exact heq
      | cons w ws =>
          exact absurd (heq ▸ (beginsApart_memberChars w ws).append _) not_beginsApart_cons
  | cons v vs =>
      cases members' with
      | nil => exact absurd (heq ▸ (beginsApart_memberChars v vs).append _) not_beginsApart_cons
      | cons w ws =>
          rw [memberChars_append, memberChars_append] at heq
          rw [membersEnd, membersEnd, heq]

/-! ## Documents -/

variable {printed : Set Number}

mutual

/-- The text of a document tells which document it is and where it ends, as long as nothing follows
that may stand in a word or a number. -/
theorem chars_append_inj (hprinted : printed.InjOn Number.chars) :
    (v w : Value) → {rest more : List Char} → (∀ n ∈ v.numbers, n ∈ printed) →
    (∀ n ∈ w.numbers, n ∈ printed) → EndsPlain rest → EndsPlain more →
    v.chars ++ rest = w.chars ++ more → v = w ∧ rest = more
  | .null, w, _, _, _, _, _, _, heq => by
      cases w with
      | null => exact ⟨rfl, List.append_cancel_left heq⟩
      | _ => cases Value.kind_eq heq
  | .bool a, w, _, _, _, _, _, _, heq => by
      cases w with
      | bool b =>
          obtain ⟨rfl, hrest⟩ := bool_append_inj heq
          exact ⟨rfl, hrest⟩
      | _ => cases Value.kind_eq heq
  | .number m, w, _, _, hv, hw, hrest, hmore, heq => by
      cases w with
      | number n =>
          obtain ⟨hchars, hsame⟩ :=
            plain_append_inj (plain_number m) (plain_number n) hrest hmore heq
          have hnumber : m = n :=
            hprinted (hv m (by simp [Value.numbers])) (hw n (by simp [Value.numbers])) hchars
          exact ⟨congrArg Value.number hnumber, hsame⟩
      | _ => cases Value.kind_eq heq
  | .string s, w, _, _, _, _, _, _, heq => by
      cases w with
      | string t =>
          obtain ⟨rfl, hsame⟩ := quoted_append_inj heq
          exact ⟨rfl, hsame⟩
      | _ => cases Value.kind_eq heq
  | .array items, w, rest, more, hv, hw, _, _, heq => by
      cases w with
      | array items' =>
          have hinside : Value.itemChars items ++ ']' :: rest =
              Value.itemChars items' ++ ']' :: more := by
            simpa [Value.chars] using heq
          obtain ⟨rfl, hsame⟩ :=
            itemsEnd_inj hprinted items items' hv hw (itemsEnd_eq hinside)
          exact ⟨rfl, hsame⟩
      | _ => cases Value.kind_eq heq
  | .object members, w, rest, more, hv, hw, _, _, heq => by
      cases w with
      | object members' =>
          have hinside : Value.memberChars members ++ '\x7d' :: rest =
              Value.memberChars members' ++ '\x7d' :: more := by
            simpa [Value.chars] using heq
          obtain ⟨rfl, hsame⟩ :=
            membersEnd_inj hprinted members members' hv hw (membersEnd_eq hinside)
          exact ⟨rfl, hsame⟩
      | _ => cases Value.kind_eq heq

theorem itemsEnd_inj (hprinted : printed.InjOn Number.chars) :
    (items items' : List Value) → {rest more : List Char} →
    (∀ n ∈ Value.itemNumbers items, n ∈ printed) →
    (∀ n ∈ Value.itemNumbers items', n ∈ printed) →
    itemsEnd rest items = itemsEnd more items' → items = items' ∧ rest = more
  | [], [], _, _, _, _, heq => ⟨rfl, (List.cons.inj heq).2⟩
  | [], _ :: _, _, _, _, _, heq => absurd (List.cons.inj heq).1 (by decide)
  | _ :: _, [], _, _, _, _, heq => absurd (List.cons.inj heq).1 (by decide)
  | v :: vs, w :: ws, _, _, hv, hw, heq => by
      rw [Value.itemNumbers, List.forall_mem_append] at hv hw
      obtain ⟨rfl, hbehind⟩ := chars_append_inj hprinted v w hv.1 hw.1 (endsPlain_itemsEnd _ _)
        (endsPlain_itemsEnd _ _) (List.cons.inj heq).2
      obtain ⟨rfl, hrest⟩ := itemsEnd_inj hprinted vs ws hv.2 hw.2 hbehind
      exact ⟨rfl, hrest⟩

theorem membersEnd_inj (hprinted : printed.InjOn Number.chars) :
    (members members' : Members) → {rest more : List Char} →
    (∀ n ∈ Value.memberNumbers members, n ∈ printed) →
    (∀ n ∈ Value.memberNumbers members', n ∈ printed) →
    membersEnd rest members = membersEnd more members' → members = members' ∧ rest = more
  | [], [], _, _, _, _, heq => ⟨rfl, (List.cons.inj heq).2⟩
  | [], _ :: _, _, _, _, _, heq => absurd (List.cons.inj heq).1 (by decide)
  | _ :: _, [], _, _, _, _, heq => absurd (List.cons.inj heq).1 (by decide)
  | (k, v) :: vs, (l, w) :: ws, _, _, hv, hw, heq => by
      rw [Value.memberNumbers, List.forall_mem_append] at hv hw
      obtain ⟨rfl, hvalues⟩ := quoted_append_inj (List.cons.inj heq).2
      obtain ⟨rfl, hbehind⟩ := chars_append_inj hprinted v w hv.1 hw.1 (endsPlain_membersEnd _ _)
        (endsPlain_membersEnd _ _) (List.cons.inj hvalues).2
      obtain ⟨rfl, hrest⟩ := membersEnd_inj hprinted vs ws hv.2 hw.2 hbehind
      exact ⟨rfl, hrest⟩

end

end Mandate.Json
