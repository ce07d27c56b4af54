import Mandate.Proofs.Json.Members
import Mandate.Proofs.Json.Numbers
import Mandate.Proofs.Json.Strings

/-! # Reading what was printed

What is read of the compact text of a document is put together from what is read of its scalars:
containers come back as they were, down to the nesting limit, and so do strings. A document is read
as its own tree if its containers do not nest too deeply and each of its numbers is read back. A
document with sorted members is what its tree denotes.
-/

namespace Mandate.Json

open Mandate.Text

namespace Value

mutual

/-- How many containers stand inside one another, at most. -/
def nesting : Value → Nat
  | .array items => itemsNesting items + 1
  | .object members => membersNesting members + 1
  | _ => 0

def itemsNesting : List Value → Nat
  | [] => 0
  | v :: rest => max (nesting v) (itemsNesting rest)

def membersNesting : Members → Nat
  | [] => 0
  | (_, v) :: rest => max (nesting v) (membersNesting rest)

end

theorem itemsNesting_le_iff {items : List Value} {depth : Nat} :
    itemsNesting items ≤ depth ↔ ∀ v ∈ items, v.nesting ≤ depth := by
  induction items with
  | nil => simp [itemsNesting]
  | cons head tail ih => rw [itemsNesting, Nat.max_le, ih, List.forall_mem_cons]

theorem membersNesting_le_iff {members : Members} {depth : Nat} :
    membersNesting members ≤ depth ↔ ∀ entry ∈ members, entry.2.nesting ≤ depth := by
  induction members with
  | nil => simp [membersNesting]
  | cons head tail ih => rw [membersNesting, Nat.max_le, ih, List.forall_mem_cons]

mutual

/-- The numbers in a document. -/
def numbers : Value → List Number
  | .number n => [n]
  | .array items => itemNumbers items
  | .object members => memberNumbers members
  | _ => []

def itemNumbers : List Value → List Number
  | [] => []
  | v :: rest => numbers v ++ itemNumbers rest

def memberNumbers : Members → List Number
  | [] => []
  | (_, v) :: rest => numbers v ++ memberNumbers rest

end

theorem mem_itemNumbers {items : List Value} {n : Number} :
    n ∈ itemNumbers items ↔ ∃ v ∈ items, n ∈ v.numbers := by
  induction items with
  | nil => simp [itemNumbers]
  | cons head tail ih => simp [itemNumbers, ih]

theorem mem_memberNumbers {members : Members} {n : Number} :
    n ∈ memberNumbers members ↔ ∃ entry ∈ members, n ∈ entry.2.numbers := by
  induction members with
  | nil => simp [memberNumbers]
  | cons head tail ih => simp [memberNumbers, ih]

end Value

variable {fuel depth : Nat} {text rest : List Char} {c : Char}

/-! ## Beginnings -/

theorem skipSpace_cons (hspace : isSpace c = false) : skipSpace (c :: text) = c :: text := by
  rw [skipSpace, List.dropWhile_cons, if_neg (by simp [hspace])]

theorem skipSpace_append {blanks : List Char} (hblanks : ∀ c ∈ blanks, isSpace c = true) :
    skipSpace (blanks ++ text) = skipSpace text :=
  List.dropWhile_append_of_pos hblanks

theorem readTree?_append {blanks : List Char} (hblanks : ∀ c ∈ blanks, isSpace c = true) :
    readTree? fuel depth (blanks ++ text) = readTree? fuel depth text := by
  cases fuel with
  | zero => rfl
  | succ fuel => rw [readTree?, skipSpace_append hblanks, readTree?]

/-- Blanks that are none in JSON are not skipped. -/
theorem readTree?_blank (hblank : isBlank c = true) (hspace : isSpace c = false) :
    readTree? fuel depth (c :: text) = none := by
  have hne {d : Char} (hd : isBlank d = false) : c ≠ d := by
    rintro rfl
    rw [hblank] at hd
    cases hd
  have hdigits : spanDigits (c :: text) = ([], c :: text) := by
    have hc : ¬ isDigit c = true := by
      intro hdigit
      rw [isBlank_of_isDigit hdigit] at hblank
      cases hblank
    rw [spanDigits, List.takeWhile_cons_of_neg hc, List.dropWhile_cons_of_neg hc]
  cases fuel with
  | zero => rfl
  | succ fuel =>
      rw [readTree?, skipSpace_cons hspace]
      split
      next heq => exact absurd (List.cons.inj heq).1 (hne rfl)
      next heq => exact absurd (List.cons.inj heq).1 (hne rfl)
      next heq => exact absurd (List.cons.inj heq).1 (hne rfl)
      next heq => exact absurd (List.cons.inj heq).1 (hne rfl)
      next heq => exact absurd (List.cons.inj heq).1 (hne rfl)
      next heq => exact absurd (List.cons.inj heq).1 (hne rfl)
      next heq => exact absurd (List.cons.inj heq).1 (hne rfl)
      next =>
        rw [readNumber?, wholeDigits?, hdigits]
        rfl

theorem readTree?_other_blanks {blanks : List Char} (hblanks : ∀ c ∈ blanks, isBlank c = true)
    (hother : ∃ c ∈ blanks, isSpace c = false) :
    readTree? fuel depth (blanks ++ rest) = none := by
  induction blanks with
  | nil =>
      obtain ⟨c, hc, -⟩ := hother
      cases hc
  | cons c more ih =>
      obtain ⟨hblank, hmore⟩ := List.forall_mem_cons.mp hblanks
      cases hspace : isSpace c with
      | false => exact readTree?_blank hblank hspace
      | true =>
          have hskip : readTree? fuel depth ([c] ++ (more ++ rest)) =
              readTree? fuel depth (more ++ rest) :=
            readTree?_append (List.forall_mem_singleton.mpr hspace)
          have hlater : ∃ c ∈ more, isSpace c = false := by simpa [hspace] using hother
          exact hskip.trans (ih hmore hlater)

theorem isSpace_of_isDigit (hdigit : isDigit c = true) : isSpace c = false := by
  cases hspace : isSpace c with
  | false => rfl
  | true =>
      simp only [isSpace, Bool.or_eq_true, decide_eq_true_eq] at hspace
      rcases hspace with ((rfl | rfl) | rfl) | rfl <;> cases hdigit

theorem readTree?_digit (hdigit : isDigit c = true) :
    readTree? (fuel + 1) depth (c :: text) = readNumber? false (c :: text) := by
  have hne {d : Char} (hd : isDigit d = false) : c ≠ d := by
    rintro rfl
    rw [hdigit] at hd
    cases hd
  rw [readTree?, skipSpace_cons (isSpace_of_isDigit hdigit)]
  split
  next heq => exact absurd (List.cons.inj heq).1 (hne rfl)
  next heq => exact absurd (List.cons.inj heq).1 (hne rfl)
  next heq => exact absurd (List.cons.inj heq).1 (hne rfl)
  next heq => exact absurd (List.cons.inj heq).1 (hne rfl)
  next heq => exact absurd (List.cons.inj heq).1 (hne rfl)
  next heq => exact absurd (List.cons.inj heq).1 (hne rfl)
  next heq => exact absurd (List.cons.inj heq).1 (hne rfl)
  next => rfl

theorem Numeral.exists_cons (hnumeral : Numeral text) :
    ∃ c more, text = c :: more ∧ isDigit c = true := by
  obtain ⟨whole, fraction, exponent, rfl, hne, hwhole, -⟩ := hnumeral
  obtain ⟨c, more, rfl⟩ := List.exists_cons_of_ne_nil hne
  exact ⟨c, _, rfl, hwhole c List.mem_cons_self⟩

theorem Numeral.readNumber?_append (hnumeral : Numeral text) (negative : Bool)
    (hends : EndsNumber rest) : readNumber? negative (text ++ rest) =
      ((readNumber? negative text).map (·.1)).map (·, rest) := by
  obtain ⟨result, hresult⟩ := hnumeral.takes_readNumber? negative
  have halone := hresult [] endsNumber_nil
  rw [List.append_nil] at halone
  rw [hresult rest hends, halone]
  cases result <;> rfl

theorem readTree?_number (n : Number) (hends : EndsNumber rest) :
    readTree? (fuel + 1) depth (n.chars ++ rest) = n.reread.map (·, rest) := by
  obtain ⟨text, hnumeral, hchars⟩ := n.exists_numeral
  obtain ⟨c, more, htext, hdigit⟩ := hnumeral.exists_cons
  unfold Number.reread
  rcases hchars with hchars | hchars
  · rw [hchars, List.cons_append, readTree?, skipSpace_cons rfl]
    exact hnumeral.readNumber?_append true hends
  · rw [hchars]
    split
    next =>
      obtain rfl := (List.cons.inj htext).1
      cases hdigit
    next =>
      rw [← hnumeral.readNumber?_append false hends, htext]
      exact readTree?_digit hdigit

/-- The text begins with a character that is neither blank nor the one given. -/
def BeginsApart (close : Char) (text : List Char) : Prop :=
  ∃ c more, text = c :: more ∧ isSpace c = false ∧ c ≠ close

theorem BeginsApart.append {close : Char} (hbegins : BeginsApart close text)
    (rest : List Char) : BeginsApart close (text ++ rest) := by
  obtain ⟨c, more, rfl, hspace, hclose⟩ := hbegins
  exact ⟨c, more ++ rest, rfl, hspace, hclose⟩

theorem beginsApart_number (n : Number) : BeginsApart ']' n.chars := by
  obtain ⟨text, hnumeral, hchars | hchars⟩ := n.exists_numeral
  · exact ⟨_, _, hchars, rfl, by decide⟩
  · obtain ⟨c, more, rfl, hdigit⟩ := hnumeral.exists_cons
    refine ⟨_, _, hchars, isSpace_of_isDigit hdigit, ?_⟩
    rintro rfl
    cases hdigit

theorem beginsApart_chars (v : Value) : BeginsApart ']' v.chars := by
  cases v with
  | null => exact ⟨_, _, rfl, rfl, by decide⟩
  | bool b => cases b <;> exact ⟨_, _, rfl, rfl, by decide⟩
  | number n => exact beginsApart_number n
  | string s => exact ⟨_, _, rfl, rfl, by decide⟩
  | array items => exact ⟨_, _, rfl, rfl, by decide⟩
  | object members => exact ⟨_, _, rfl, rfl, by decide⟩

theorem beginsApart_itemChars (v : Value) (more : List Value) :
    BeginsApart ']' (Value.itemChars (v :: more)) := by
  cases more with
  | nil => exact beginsApart_chars v
  | cons w more => exact (beginsApart_chars v).append _

theorem beginsApart_memberChars (member : String × Value) (more : Members) :
    BeginsApart '\x7d' (Value.memberChars (member :: more)) := by
  cases more <;> exact ⟨_, _, rfl, rfl, by decide⟩

/-! ## What is read of a printed document -/

namespace Value

mutual

/-- The tree that is read from the text of a document, if anything is, where so many containers may
still stand inside one another. -/
def reread : Value → (depth : Nat) → Option Tree
  | .null, _ => some .null
  | .bool b, _ => some (.bool b)
  | .number n, _ => n.reread
  | .string s, _ => some (.string s)
  | .array items, depth => (rereadItems items (depth - 1)).map (atDepth depth <| .array ·)
  | .object members, depth => (rereadMembers members (depth - 1)).map (atDepth depth <| .object ·)

def rereadItems : List Value → (depth : Nat) → Option (List Tree)
  | [], _ => some []
  | v :: rest, depth => (reread v depth).bind fun tree =>
      (rereadItems rest depth).map (tree :: ·)

def rereadMembers : Members → (depth : Nat) → Option (List (String × Tree))
  | [], _ => some []
  | (key, v) :: rest, depth => (reread v depth).bind fun tree =>
      (rereadMembers rest depth).map ((key, tree) :: ·)

end

theorem rereadItems_cons (v : Value) (more : List Value) (depth : Nat) :
    rereadItems (v :: more) depth = (v.reread depth).bind fun tree =>
      (rereadItems more depth).map (tree :: ·) := rfl

theorem rereadMembers_cons (key : String) (v : Value) (more : Members) (depth : Nat) :
    rereadMembers ((key, v) :: more) depth = (v.reread depth).bind fun tree =>
      (rereadMembers more depth).map ((key, tree) :: ·) := rfl

variable {members : Members} {trees : List (String × Tree)}

theorem names_of_rereadMembers (hreread : rereadMembers members depth = some trees) :
    trees.map (·.1) = members.map (·.1) := by
  induction members generalizing trees with
  | nil =>
      cases hreread
      rfl
  | cons member more ih =>
      obtain ⟨key, v⟩ := member
      rw [rereadMembers_cons] at hreread
      obtain ⟨tree, -, hmore⟩ := Option.bind_eq_some_iff.mp hreread
      obtain ⟨others, hothers, rfl⟩ := Option.map_eq_some_iff.mp hmore
      rw [List.map_cons, List.map_cons, ih hothers]

theorem exists_mem_of_rereadMembers (hreread : rereadMembers members depth = some trees)
    {key : String} {v : Value} (hmem : (key, v) ∈ members) :
    ∃ tree, v.reread depth = some tree ∧ (key, tree) ∈ trees := by
  induction members generalizing trees with
  | nil => cases hmem
  | cons member more ih =>
      obtain ⟨key', w⟩ := member
      rw [rereadMembers_cons] at hreread
      obtain ⟨tree, htree, hmore⟩ := Option.bind_eq_some_iff.mp hreread
      obtain ⟨others, hothers, rfl⟩ := Option.map_eq_some_iff.mp hmore
      rcases List.mem_cons.mp hmem with heq | hmem
      · cases heq
        exact ⟨tree, htree, List.mem_cons_self⟩
      · obtain ⟨tree', htree', hmem'⟩ := ih hothers hmem
        exact ⟨tree', htree', List.mem_cons_of_mem _ hmem'⟩

theorem exists_rereadMembers (hmembers : ∀ member ∈ members, ∃ tree,
    member.2.reread depth = some tree) : ∃ trees, rereadMembers members depth = some trees := by
  induction members with
  | nil => exact ⟨[], rfl⟩
  | cons member more ih =>
      obtain ⟨key, v⟩ := member
      obtain ⟨⟨tree, htree⟩, hmore⟩ := List.forall_mem_cons.mp hmembers
      obtain ⟨trees, htrees⟩ := ih hmore
      refine ⟨(key, tree) :: trees, ?_⟩
      rw [rereadMembers_cons, htree, htrees]
      rfl

mutual

/-- A document is reread as its own tree if its containers do not nest too deeply and its numbers
are read back. -/
theorem reread_eq_tree : (v : Value) → (depth : Nat) → v.nesting ≤ depth →
    (∀ n ∈ v.numbers, n.ReadsBack) → v.reread depth = some v.tree
  | .null, _, _, _ => rfl
  | .bool _, _, _, _ => rfl
  | .number n, _, _, hnumbers => (hnumbers n (by simp [numbers])).reread_eq
  | .string _, _, _, _ => rfl
  | .array items, depth, hnesting, hnumbers => by
      rw [nesting] at hnesting
      have hdepth : depth ≠ 0 := by omega
      rw [reread, rereadItems_eq_trees items (depth - 1) (by omega) hnumbers, Option.map_some,
        atDepth, if_neg hdepth, tree]
  | .object members, depth, hnesting, hnumbers => by
      rw [nesting] at hnesting
      have hdepth : depth ≠ 0 := by omega
      rw [reread, rereadMembers_eq_trees members (depth - 1) (by omega) hnumbers, Option.map_some,
        atDepth, if_neg hdepth, tree]

theorem rereadItems_eq_trees : (items : List Value) → (depth : Nat) →
    itemsNesting items ≤ depth → (∀ n ∈ itemNumbers items, n.ReadsBack) →
    rereadItems items depth = some (itemTrees items)
  | [], _, _, _ => rfl
  | v :: rest, depth, hnesting, hnumbers => by
      rw [itemsNesting] at hnesting
      rw [itemNumbers, List.forall_mem_append] at hnumbers
      rw [rereadItems_cons, reread_eq_tree v depth (by omega) hnumbers.1,
        rereadItems_eq_trees rest depth (by omega) hnumbers.2]
      rfl

theorem rereadMembers_eq_trees : (members : Members) → (depth : Nat) →
    membersNesting members ≤ depth → (∀ n ∈ memberNumbers members, n.ReadsBack) →
    rereadMembers members depth = some (memberTrees members)
  | [], _, _, _ => rfl
  | (key, v) :: rest, depth, hnesting, hnumbers => by
      rw [membersNesting] at hnesting
      rw [memberNumbers, List.forall_mem_append] at hnumbers
      rw [rereadMembers_cons, reread_eq_tree v depth (by omega) hnumbers.1,
        rereadMembers_eq_trees rest depth (by omega) hnumbers.2]
      rfl

end

end Value

/-! ## Tokens around values -/

theorem readTree?_quote : readTree? (fuel + 1) depth ('"' :: text) =
    (pieces? text).bind fun (pieces, rest) => some (match stringOf? pieces with
      | some text => .string text
      | none => .unreadable, rest) := by
  rw [readTree?, skipSpace_cons rfl]
  rfl

theorem readTree?_string (s : String) :
    readTree? (fuel + 1) depth (quoted s ++ rest) = some (.string s, rest) := by
  obtain ⟨pieces, hpieces, hstring⟩ := pieces?_quoted s rest
  rw [quoted, List.cons_append, List.cons_append, List.append_assoc, List.singleton_append,
    readTree?_quote, hpieces, Option.bind_some]
  dsimp only
  rw [hstring]

theorem readTree?_bracket : readTree? (fuel + 1) depth ('[' :: text) =
    match skipSpace text with
    | ']' :: rest => some (atDepth depth (.array []), rest)
    | rest => (readItems? fuel (depth - 1) rest).bind fun (items, rest) =>
        some (atDepth depth (.array items), rest) := by
  rw [readTree?, skipSpace_cons rfl]
  rfl

theorem readTree?_array (hbegins : BeginsApart ']' text) :
    readTree? (fuel + 1) depth ('[' :: text) =
      (readItems? fuel (depth - 1) text).map fun (items, rest) =>
        (atDepth depth (.array items), rest) := by
  obtain ⟨c, text, rfl, hspace, hc⟩ := hbegins
  rw [readTree?_bracket, skipSpace_cons hspace]
  split
  next heq => exact absurd (List.cons.inj heq).1 hc
  next => exact Option.map_eq_bind.symm

theorem readTree?_brace : readTree? (fuel + 1) depth ('\x7b' :: text) =
    match skipSpace text with
    | '\x7d' :: rest => some (atDepth depth (.object []), rest)
    | rest => (readMembers? fuel (depth - 1) rest).bind fun (members, rest) =>
        some (atDepth depth (objectTree members), rest) := by
  rw [readTree?, skipSpace_cons rfl]
  rfl

theorem readTree?_object (hbegins : BeginsApart '\x7d' text) :
    readTree? (fuel + 1) depth ('\x7b' :: text) =
      (readMembers? fuel (depth - 1) text).map fun (members, rest) =>
        (atDepth depth (objectTree members), rest) := by
  obtain ⟨c, text, rfl, hspace, hc⟩ := hbegins
  rw [readTree?_brace, skipSpace_cons hspace]
  split
  next heq => exact absurd (List.cons.inj heq).1 hc
  next => exact Option.map_eq_bind.symm

theorem readItems?_last {item? : Option Tree}
    (hitem : readTree? fuel depth text = item?.map (·, ']' :: rest)) :
    readItems? (fuel + 1) depth text = item?.map ([·], rest) := by
  rw [readItems?, hitem]
  cases item? <;> rfl

theorem readItems?_comma {item? : Option Tree}
    (hitem : readTree? fuel depth text = item?.map (·, ',' :: rest)) :
    readItems? (fuel + 1) depth text = item?.bind fun item =>
      (readItems? fuel depth rest).map fun (items, rest) => (item :: items, rest) := by
  rw [readItems?, hitem]
  cases item? with
  | none => rfl
  | some item => exact Option.map_eq_bind.symm

theorem readMembers?_quote : readMembers? (fuel + 1) depth ('"' :: text) =
    (pieces? text).bind fun (pieces, rest) =>
      match skipSpace rest with
      | ':' :: rest => (readTree? fuel depth rest).bind fun (value, rest) =>
          match skipSpace rest with
          | ',' :: rest => (readMembers? fuel depth rest).bind fun (members, rest) =>
              some ((stringOf? pieces, value) :: members, rest)
          | '\x7d' :: rest => some ([(stringOf? pieces, value)], rest)
          | _ => none
      | _ => none := by
  rw [readMembers?, skipSpace_cons rfl]
  rfl

theorem readMembers?_quoted (key : String) (text : List Char) :
    readMembers? (fuel + 1) depth (quoted key ++ ':' :: text) =
      (readTree? fuel depth text).bind fun (value, rest) =>
        match skipSpace rest with
        | ',' :: rest => (readMembers? fuel depth rest).map fun (members, rest) =>
            ((some key, value) :: members, rest)
        | '\x7d' :: rest => some ([(some key, value)], rest)
        | _ => none := by
  obtain ⟨pieces, hpieces, hstring⟩ := pieces?_quoted key (':' :: text)
  rw [quoted, List.cons_append, List.cons_append, List.append_assoc, List.singleton_append,
    readMembers?_quote, hpieces, Option.bind_some]
  dsimp only
  rw [hstring, skipSpace_cons rfl]
  simp only [Option.map_eq_bind]
  rfl

theorem readMembers?_last (key : String) {value? : Option Tree}
    (hvalue : readTree? fuel depth text = value?.map (·, '\x7d' :: rest)) :
    readMembers? (fuel + 1) depth (quoted key ++ ':' :: text) =
      value?.map fun value => ([(some key, value)], rest) := by
  rw [readMembers?_quoted, hvalue]
  cases value? <;> rfl

theorem readMembers?_comma (key : String) {value? : Option Tree}
    (hvalue : readTree? fuel depth text = value?.map (·, ',' :: rest)) :
    readMembers? (fuel + 1) depth (quoted key ++ ':' :: text) = value?.bind fun value =>
      (readMembers? fuel depth rest).map fun (members, rest) =>
        ((some key, value) :: members, rest) := by
  rw [readMembers?_quoted, hvalue]
  cases value? <;> rfl

/-! ## Values inside of others -/

/-- Members whose keys have a meaning, as they are read. -/
def keyed (members : List (String × Tree)) : List (Option String × Tree) :=
  members.map fun (key, tree) => (some key, tree)

theorem mapM_keyed (members : List (String × Tree)) :
    ((keyed members).mapM fun (k, t) => k.map (·, t)) = some members := by
  induction members with
  | nil => rfl
  | cons head tail ih =>
      rw [keyed] at ih ⊢
      rw [List.map_cons, List.mapM_cons, ih]
      rfl

theorem objectTree_keyed (members : List (String × Tree)) :
    objectTree (keyed members) = .object members := by
  rw [objectTree, mapM_keyed]

mutual

/-- Of the text of a document its reader takes all of it or nothing, and what follows the text is
left. -/
theorem readTree?_chars (rest : List Char) : (v : Value) → (fuel depth : Nat) →
    v.chars.length < fuel → EndsNumber rest →
    readTree? fuel depth (v.chars ++ rest) = (v.reread depth).map (·, rest)
  | v, 0, _, hfuel, _ => absurd hfuel (Nat.not_lt_zero _)
  | .null, fuel + 1, depth, _, _ => by
      rw [Value.chars, List.cons_append, readTree?, skipSpace_cons rfl]
      rfl
  | .bool true, fuel + 1, depth, _, _ => by
      rw [Value.chars, List.cons_append, readTree?, skipSpace_cons rfl]
      rfl
  | .bool false, fuel + 1, depth, _, _ => by
      rw [Value.chars, List.cons_append, readTree?, skipSpace_cons rfl]
      rfl
  | .number n, fuel + 1, depth, _, hends => readTree?_number n hends
  | .string s, fuel + 1, depth, _, _ => readTree?_string s
  | .array [], fuel + 1, depth, _, _ => by
      rw [Value.chars, List.cons_append, List.cons_append, readTree?, skipSpace_cons rfl]
      rfl
  | .array (v :: more), fuel + 1, depth, hfuel, _ => by
      rw [Value.chars, List.cons_append, List.cons_append, List.append_assoc,
        List.singleton_append, readTree?_array ((beginsApart_itemChars v more).append _),
        readItems?_itemChars rest v more fuel (depth - 1) (by simpa [Value.chars] using hfuel),
        Value.reread, Option.map_map, Option.map_map]
      rfl
  | .object [], fuel + 1, depth, _, _ => by
      rw [Value.chars, List.cons_append, List.cons_append, readTree?, skipSpace_cons rfl]
      rfl
  | .object ((key, v) :: more), fuel + 1, depth, hfuel, _ => by
      rw [Value.chars, List.cons_append, List.cons_append, List.append_assoc,
        List.singleton_append, readTree?_object ((beginsApart_memberChars (key, v) more).append _),
        readMembers?_memberChars rest key v more fuel (depth - 1)
          (by simpa [Value.chars] using hfuel),
        Value.reread, Option.map_map, Option.map_map]
      simp only [Function.comp_def, objectTree_keyed]

theorem readItems?_itemChars (rest : List Char) : (v : Value) → (more : List Value) →
    (fuel depth : Nat) → (Value.itemChars (v :: more)).length + 1 < fuel →
    readItems? fuel depth (Value.itemChars (v :: more) ++ ']' :: rest) =
      (Value.rereadItems (v :: more) depth).map (·, rest)
  | _, _, 0, _, hfuel => absurd hfuel (Nat.not_lt_zero _)
  | v, [], fuel + 1, depth, hfuel => by
      rw [Value.itemChars] at hfuel ⊢
      rw [readItems?_last (readTree?_chars _ v fuel depth (by omega)
        (endsNumber_cons rfl (by decide) (by decide) (by decide) _)),
        Value.rereadItems_cons]
      cases v.reread depth <;> rfl
  | v, w :: more, fuel + 1, depth, hfuel => by
      have hchars : Value.itemChars (v :: w :: more) =
          v.chars ++ ',' :: Value.itemChars (w :: more) := by
        rw [Value.itemChars]
        exact List.cons_ne_nil w more
      rw [hchars] at hfuel ⊢
      rw [List.length_append, List.length_cons] at hfuel
      rw [List.append_assoc, List.cons_append, readItems?_comma (readTree?_chars _ v fuel depth
          (by omega) (endsNumber_cons rfl (by decide) (by decide) (by decide) _)),
        readItems?_itemChars rest w more fuel depth (by omega), Value.rereadItems_cons v]
      cases v.reread depth with
      | none => rfl
      | some tree => cases Value.rereadItems (w :: more) depth <;> rfl

theorem readMembers?_memberChars (rest : List Char) : (key : String) → (v : Value) →
    (more : Members) → (fuel depth : Nat) →
    (Value.memberChars ((key, v) :: more)).length + 1 < fuel →
    readMembers? fuel depth (Value.memberChars ((key, v) :: more) ++ '\x7d' :: rest) =
      (Value.rereadMembers ((key, v) :: more) depth).map fun members => (keyed members, rest)
  | _, _, _, 0, _, hfuel => absurd hfuel (Nat.not_lt_zero _)
  | key, v, [], fuel + 1, depth, hfuel => by
      rw [Value.memberChars, List.length_append, List.length_cons] at hfuel
      rw [Value.memberChars, List.append_assoc, List.cons_append,
        readMembers?_last key (readTree?_chars _ v fuel depth (by omega)
          (endsNumber_cons rfl (by decide) (by decide) (by decide) _)),
        Value.rereadMembers_cons]
      cases v.reread depth <;> rfl
  | key, v, (key', w) :: more, fuel + 1, depth, hfuel => by
      have hchars : Value.memberChars ((key, v) :: (key', w) :: more) =
          quoted key ++ ':' :: v.chars ++ ',' :: Value.memberChars ((key', w) :: more) := by
        rw [Value.memberChars]
        exact List.cons_ne_nil (key', w) more
      rw [hchars, List.length_append, List.length_append, List.length_cons, List.length_cons]
        at hfuel
      rw [hchars, List.append_assoc, List.append_assoc, List.cons_append, List.cons_append,
        readMembers?_comma key (readTree?_chars _ v fuel depth (by omega)
          (endsNumber_cons rfl (by decide) (by decide) (by decide) _)),
        readMembers?_memberChars rest key' w more fuel depth (by omega),
        Value.rereadMembers_cons key v]
      cases v.reread depth with
      | none => rfl
      | some tree => cases Value.rereadMembers ((key', w) :: more) depth <;> rfl

end

/-! ## Whole texts -/

/-- From the compact text of a document its reader takes what it takes from each of its parts,
whatever blanks stand in front of it. -/
theorem ofText?_behind_blanks {s : String} {blanks : List Char} {v : Value}
    (hblanks : ∀ c ∈ blanks, isSpace c = true) (hs : s.toList = blanks ++ v.chars) :
    Tree.ofText? s = v.reread maxDepth := by
  have hfuel : v.chars.length < (blanks ++ v.chars).length + 1 := by
    rw [List.length_append]
    omega
  have hread := readTree?_chars [] v _ maxDepth hfuel endsNumber_nil
  rw [List.append_nil] at hread
  rw [Tree.ofText?, hs, readTree?_append hblanks, hread]
  cases v.reread maxDepth <;> rfl

theorem ofText?_text_eq_reread (v : Value) : Tree.ofText? v.text = v.reread maxDepth :=
  @ofText?_behind_blanks _ [] _ (by simp) String.toList_ofList

/-- No text is read that begins with blanks of which some are none in JSON. -/
theorem ofText?_behind_other_blanks {s : String} {blanks rest : List Char}
    (hblanks : ∀ c ∈ blanks, isBlank c = true) (hother : ∃ c ∈ blanks, isSpace c = false)
    (hs : s.toList = blanks ++ rest) : Tree.ofText? s = none := by
  rw [Tree.ofText?, hs, readTree?_other_blanks hblanks hother]
  rfl

/-- The compact text of a document is read as its tree. -/
theorem ofText?_text {v : Value} (hnesting : v.nesting ≤ maxDepth)
    (hnumbers : ∀ n ∈ v.numbers, n.ReadsBack) : Tree.ofText? v.text = some v.tree := by
  rw [ofText?_text_eq_reread, Value.reread_eq_tree v maxDepth hnesting hnumbers]

mutual

/-- What the tree of a document denotes is the document with its members in order. -/
theorem value?_tree : (v : Value) → v.tree.value? = some v.sorted
  | .null => rfl
  | .bool _ => rfl
  | .number _ => rfl
  | .string _ => rfl
  | .array items => by rw [Value.tree, Tree.value?, itemValues?_itemTrees items]; rfl
  | .object members => by rw [Value.tree, Tree.value?, memberValues?_memberTrees members]; rfl

theorem itemValues?_itemTrees : (items : List Value) →
    Tree.itemValues? (Value.itemTrees items) = some (Value.sortedItems items)
  | [] => rfl
  | v :: rest => by
      rw [Value.itemTrees, Tree.itemValues?, value?_tree v, itemValues?_itemTrees rest]
      rfl

theorem memberValues?_memberTrees : (members : Members) →
    Tree.memberValues? (Value.memberTrees members) = some (Value.sortedMembers members)
  | [] => rfl
  | (key, v) :: rest => by
      rw [Value.memberTrees, Tree.memberValues?, value?_tree v, memberValues?_memberTrees rest]
      rfl

end

end Mandate.Json
