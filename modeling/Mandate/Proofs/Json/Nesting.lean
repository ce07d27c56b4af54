import Mandate.Proofs.Json.Numbers
import Mandate.Proofs.Json.Strings

/-! # Nesting of JSON texts

Where in a text a character stands, and how many containers are open there, can be told character by
character and without regard to what the text means: brackets count, except inside a string. A text
that is read leaves no container open, and neither does one that is printed. So if something stands
in front of a printed object, the two together are not a text that can be read: either the object
closes no more containers than it opens, or its quotes are taken the wrong way round.
-/

namespace Mandate.Json

open Mandate.Text

/-- Where in a JSON text a character stands. -/
inductive Place where
  | between
  /-- Behind a closing quote, with nothing but blanks in between. -/
  | closed
  | inside
  /-- Behind the backslash of an escape. -/
  | escape
  deriving DecidableEq, Repr

/-- A place in a text, and the number of containers that are open there. -/
structure Standing where
  place : Place
  depth : Nat
  deriving DecidableEq, Repr

namespace Standing

/-- Go past a character outside of strings. Nothing but blanks may stand outside of all containers,
and only a separator or a closing bracket may follow a string. -/
def outside? (s : Standing) (c : Char) : Option Standing :=
  if isSpace c then some s
  else
    match s.depth with
    | 0 => none
    | depth + 1 =>
        if c = ',' ∨ c = ':' then some ⟨.between, depth + 1⟩
        else if c = ']' ∨ c = '\x7d' then some ⟨.between, depth⟩
        else if s.place = .closed then none
        else if c = '[' ∨ c = '\x7b' then some ⟨.between, depth + 2⟩
        else if c = '"' then some ⟨.inside, depth + 1⟩
        else some s

/-- Go past one character, if a text may have it there. -/
def step? (s : Standing) (c : Char) : Option Standing :=
  match s.place with
  | .inside =>
      if c = '"' then some ⟨.closed, s.depth⟩
      else if c = '\\' then some ⟨.escape, s.depth⟩
      else some s
  | .escape => if c = 'u' ∨ (escapeChar? c).isSome then some ⟨.inside, s.depth⟩ else none
  | _ => s.outside? c

/-- Go past some characters. -/
def run? (s : Standing) : List Char → Option Standing
  | [] => some s
  | c :: rest => (s.step? c).bind (run? · rest)

variable {s t : Standing} {c : Char} {text rest : List Char} {depth : Nat} {place : Place}

theorem run?_cons (hstep : s.step? c = some t) : s.run? (c :: rest) = t.run? rest := by
  rw [run?, hstep, Option.bind_some]

theorem run?_append : s.run? (text ++ rest) = (s.run? text).bind (run? · rest) := by
  induction text generalizing s with
  | nil => rfl
  | cons c text ih =>
      rw [List.cons_append, run?, run?]
      cases s.step? c with
      | none => rfl
      | some t => exact ih

theorem run?_dropWhile {skips : Char → Bool} (hskips : ∀ c, skips c = true → s.step? c = some s)
    (text : List Char) : s.run? (text.dropWhile skips) = s.run? text := by
  induction text with
  | nil => rfl
  | cons c text ih =>
      rw [List.dropWhile_cons]
      split
      next hc => rw [ih, run?_cons (hskips c hc)]
      next => rfl

/-- The standing is not in a string. -/
def Free (s : Standing) : Prop := s.place = .between ∨ s.place = .closed

theorem Free.step? (hfree : s.Free) (c : Char) : s.step? c = s.outside? c := by
  unfold Standing.step?
  rcases hfree with hplace | hplace <;> rw [hplace]

theorem Free.run?_skipSpace (hfree : s.Free) (text : List Char) :
    s.run? (skipSpace text) = s.run? text := by
  apply run?_dropWhile
  intro c hspace
  rw [hfree.step?, outside?, if_pos hspace]

theorem Free.run?_separator (hfree : s.Free) (hdepth : s.depth = depth + 1)
    (hc : c = ',' ∨ c = ':') : s.run? (c :: rest) = run? ⟨.between, depth + 1⟩ rest := by
  apply run?_cons
  rw [hfree.step?, outside?, hdepth]
  rcases hc with rfl | rfl <;> rfl

theorem Free.run?_closing (hfree : s.Free) (hdepth : s.depth = depth + 1)
    (hc : c = ']' ∨ c = '\x7d') : s.run? (c :: rest) = run? ⟨.between, depth⟩ rest := by
  apply run?_cons
  rw [hfree.step?, outside?, hdepth]
  rcases hc with rfl | rfl <;> rfl

theorem run?_opening (hc : c = '[' ∨ c = '\x7b') :
    run? ⟨.between, depth + 1⟩ (c :: rest) = run? ⟨.between, depth + 2⟩ rest := by
  apply run?_cons
  rcases hc with rfl | rfl <;> rfl

theorem run?_quote :
    run? ⟨.between, depth + 1⟩ ('"' :: rest) = run? ⟨.inside, depth + 1⟩ rest :=
  run?_cons rfl

/-- A character that may stand in a word or a number: neither a bracket nor a quote, a separator or
the end of a line. -/
def isPlain (c : Char) : Bool :=
  !(['\x7b', '\x7d', '[', ']', '"', ',', ':', '\n'].contains c)

theorem step?_plain (hplain : isPlain c = true) :
    step? ⟨.between, depth + 1⟩ c = some ⟨.between, depth + 1⟩ := by
  simp only [isPlain, List.contains_eq_mem, List.mem_cons, List.not_mem_nil, or_false,
    Bool.not_eq_true', decide_eq_false_iff_not, not_or] at hplain
  obtain ⟨hopen, hclose, hopen', hclose', hquote, hcomma, hcolon, -⟩ := hplain
  simp [step?, outside?, hopen, hclose, hopen', hclose', hquote, hcomma, hcolon]

theorem run?_plain (text : List Char) (hplain : ∀ c ∈ text, isPlain c = true) :
    run? ⟨.between, depth + 1⟩ (text ++ rest) = run? ⟨.between, depth + 1⟩ rest := by
  induction text with
  | nil => rfl
  | cons c text ih =>
      rw [List.cons_append, run?_cons (step?_plain (hplain c List.mem_cons_self))]
      exact ih fun c hc => hplain c (List.mem_cons_of_mem _ hc)

theorem isPlain_of_isDigit (hdigit : Text.isDigit c = true) : isPlain c = true := by
  cases hplain : isPlain c with
  | true => rfl
  | false =>
      simp only [isPlain, List.contains_eq_mem, List.mem_cons, List.not_mem_nil, or_false,
        Bool.not_eq_eq_eq_not, Bool.not_false, decide_eq_true_eq] at hplain
      rcases hplain with rfl | rfl | rfl | rfl | rfl | rfl | rfl | rfl <;> cases hdigit

theorem run?_spanDigits (text : List Char) :
    run? ⟨.between, depth + 1⟩ (spanDigits text).2 = run? ⟨.between, depth + 1⟩ text :=
  run?_dropWhile (fun _ hdigit => step?_plain (isPlain_of_isDigit hdigit)) text

/-! ## Texts that are read -/

theorem run?_hexDigit {value : Nat} (hdigit : Hex.digit? c = some value) :
    run? ⟨.inside, depth⟩ (c :: rest) = run? ⟨.inside, depth⟩ rest := by
  apply run?_cons
  have hquote : c ≠ '"' := by rintro rfl; cases hdigit
  have hbackslash : c ≠ '\\' := by rintro rfl; cases hdigit
  simp [step?, hquote, hbackslash]

theorem run?_pieces {pieces : List Piece} (hread : pieces? text = some (pieces, rest)) :
    run? ⟨.inside, depth⟩ text = run? ⟨.closed, depth⟩ rest := by
  fun_induction pieces? text generalizing pieces rest with
  | case1 => cases hread
  | case2 =>
      cases hread
      exact run?_cons rfl
  | case3 a b c d tail ih =>
      simp only [bind, Option.bind_eq_some_iff] at hread
      obtain ⟨_, ha, _, hb, _, hc, _, hd, ⟨more, tail'⟩, htail, heq⟩ := hread
      cases heq
      rw [run?_cons (t := ⟨.escape, depth⟩) rfl, run?_cons (t := ⟨.inside, depth⟩) rfl,
        run?_hexDigit ha, run?_hexDigit hb, run?_hexDigit hc, run?_hexDigit hd, ih htail]
  | case4 e tail hunit ih =>
      simp only [bind, Option.bind_eq_some_iff] at hread
      obtain ⟨_, he, ⟨more, tail'⟩, htail, heq⟩ := hread
      cases heq
      have hescape : step? ⟨.escape, depth⟩ e = some ⟨.inside, depth⟩ := by
        simp [step?, he]
      rw [run?_cons (t := ⟨.escape, depth⟩) rfl, run?_cons hescape, ih htail]
  | case5 => cases hread
  | case6 c tail hquote hunit hescape hplain ih =>
      obtain ⟨⟨more, tail'⟩, htail, heq⟩ := Option.map_eq_some_iff.mp hread
      cases heq
      simp only [Bool.or_eq_true, decide_eq_true_eq, not_or] at hplain
      have hstep : step? ⟨.inside, depth⟩ c = some ⟨.inside, depth⟩ := by
        simp [step?, show c ≠ '"' from hquote, hplain.2]
      rw [run?_cons hstep, ih htail]

theorem run?_wholeDigits {digits : List Char}
    (hread : wholeDigits? text = some (digits, rest)) :
    run? ⟨.between, depth + 1⟩ text = run? ⟨.between, depth + 1⟩ rest := by
  unfold wholeDigits? at hread
  split at hread
  next => cases hread
  next hspan =>
    split at hread
    · cases hread
    · cases hread
      rw [← run?_spanDigits text, hspan]

theorem run?_fraction {digits : Option (List Char)}
    (hread : fraction? text = some (digits, rest)) :
    run? ⟨.between, depth + 1⟩ text = run? ⟨.between, depth + 1⟩ rest := by
  unfold fraction? at hread
  split at hread
  next more =>
    split at hread
    next => cases hread
    next hspan =>
      cases hread
      rw [run?_cons (step?_plain rfl), ← run?_spanDigits more, hspan]
  next => cases hread; rfl

theorem run?_takeSign (text : List Char) :
    run? ⟨.between, depth + 1⟩ (Binary64.takeSign text).2 = run? ⟨.between, depth + 1⟩ text := by
  unfold Binary64.takeSign
  split
  · exact (run?_cons (step?_plain rfl)).symm
  · exact (run?_cons (step?_plain rfl)).symm
  · rfl

theorem run?_exponent {exponent : Option Int}
    (hread : exponent? text = some (exponent, rest)) :
    run? ⟨.between, depth + 1⟩ text = run? ⟨.between, depth + 1⟩ rest := by
  unfold exponent? at hread
  split at hread
  next => cases hread; rfl
  next c more =>
    split at hread
    next hmark =>
      have hplain : isPlain c = true := by rcases hmark with rfl | rfl <;> rfl
      dsimp only at hread
      split at hread
      next => cases hread
      next hspan =>
        cases hread
        rw [run?_cons (step?_plain hplain), ← run?_takeSign more, ← run?_spanDigits, hspan]
    next => cases hread; rfl

theorem run?_readNumber {negative : Bool} {tree : Tree}
    (hread : readNumber? negative text = some (tree, rest)) :
    run? ⟨.between, depth + 1⟩ text = run? ⟨.between, depth + 1⟩ rest := by
  unfold readNumber? at hread
  simp only [bind, Option.bind_eq_some_iff] at hread
  obtain ⟨⟨whole, rest₁⟩, hwhole, ⟨fraction, rest₂⟩, hfraction, ⟨exponent, rest₃⟩, hexponent,
    heq⟩ := hread
  cases heq
  rw [run?_wholeDigits hwhole, run?_fraction hfraction, run?_exponent hexponent]

/-- What the reader of a value uses of a text leads from between the tokens to behind the value. -/
def TreesNest (fuel : Nat) : Prop :=
  ∀ (depth : Nat) {limit : Nat} {text rest : List Char} {tree : Tree},
    readTree? fuel limit text = some (tree, rest) →
      ∃ s : Standing, s.Free ∧ s.depth = depth + 1 ∧
        run? ⟨.between, depth + 1⟩ text = s.run? rest

/-- What the reader of items uses of a text leads out of the array. -/
def ItemsNest (fuel : Nat) : Prop :=
  ∀ {limit depth : Nat} {text rest : List Char} {items : List Tree},
    readItems? fuel limit text = some (items, rest) →
      run? ⟨.between, depth + 1⟩ text = run? ⟨.between, depth⟩ rest

/-- What the reader of members uses of a text leads out of the object. -/
def MembersNest (fuel : Nat) : Prop :=
  ∀ {limit depth : Nat} {text rest : List Char} {members : List (Option String × Tree)},
    readMembers? fuel limit text = some (members, rest) →
      run? ⟨.between, depth + 1⟩ text = run? ⟨.between, depth⟩ rest

theorem free_between (depth : Nat) : Free ⟨.between, depth⟩ := Or.inl rfl

theorem free_closed (depth : Nat) : Free ⟨.closed, depth⟩ := Or.inr rfl

theorem ItemsNest.succ {fuel : Nat} (htrees : TreesNest fuel) (hitems : ItemsNest fuel) :
    ItemsNest (fuel + 1) := by
  intro limit depth text rest items hread
  rw [readItems?] at hread
  simp only [bind, Option.bind_eq_some_iff] at hread
  obtain ⟨⟨item, rest₁⟩, hitem, hread⟩ := hread
  obtain ⟨s, hfree, hdepth, hrun⟩ := htrees depth hitem
  rw [hrun, ← hfree.run?_skipSpace rest₁]
  dsimp only at hread
  split at hread
  next rest₂ hcomma =>
    obtain ⟨⟨more, rest₃⟩, hmore, heq⟩ := Option.bind_eq_some_iff.mp hread
    cases heq
    rw [hcomma, hfree.run?_separator hdepth (Or.inl rfl), hitems hmore]
  next rest₂ hbracket =>
    cases hread
    rw [hbracket, hfree.run?_closing hdepth (Or.inl rfl)]
  next => cases hread

theorem MembersNest.succ {fuel : Nat} (htrees : TreesNest fuel) (hmembers : MembersNest fuel) :
    MembersNest (fuel + 1) := by
  intro limit depth text rest members hread
  rw [readMembers?] at hread
  rw [← (free_between _).run?_skipSpace text]
  split at hread
  next rest₁ hquote =>
    simp only [bind, Option.bind_eq_some_iff] at hread
    obtain ⟨⟨pieces, rest₂⟩, hpieces, hread⟩ := hread
    rw [hquote, run?_quote, run?_pieces hpieces, ← (free_closed _).run?_skipSpace rest₂]
    dsimp only at hread
    split at hread
    next rest₃ hcolon =>
      obtain ⟨⟨value, rest₄⟩, hvalue, hread⟩ := Option.bind_eq_some_iff.mp hread
      obtain ⟨s, hfree, hdepth, hrun⟩ := htrees depth hvalue
      rw [hcolon, (free_closed _).run?_separator rfl (Or.inr rfl), hrun,
        ← hfree.run?_skipSpace rest₄]
      dsimp only at hread
      split at hread
      next rest₅ hcomma =>
        obtain ⟨⟨more, rest₆⟩, hmore, heq⟩ := Option.bind_eq_some_iff.mp hread
        cases heq
        rw [hcomma, hfree.run?_separator hdepth (Or.inl rfl), hmembers hmore]
      next rest₅ hbrace =>
        cases hread
        rw [hbrace, hfree.run?_closing hdepth (Or.inr rfl)]
      next => cases hread
    next => cases hread
  next => cases hread

/-- What is used of a text behind an opening brace leads out of the object. -/
theorem MembersNest.run?_object {fuel limit : Nat} {tree : Tree} (hmembers : MembersNest fuel)
    (depth : Nat)
    (hread : (match skipSpace text with
      | '\x7d' :: rest => some (atDepth limit (.object []), rest)
      | rest => do
          let (members, rest) ← readMembers? fuel (limit - 1) rest
          return (atDepth limit (objectTree members), rest)) = some (tree, rest)) :
    run? ⟨.between, depth + 1⟩ text = run? ⟨.between, depth⟩ rest := by
  rw [← (free_between _).run?_skipSpace text]
  split at hread
  next rest₁ hclose =>
    cases hread
    rw [hclose, (free_between _).run?_closing rfl (Or.inr rfl)]
  next =>
    obtain ⟨⟨members, rest₁⟩, hread, heq⟩ := Option.bind_eq_some_iff.mp hread
    cases heq
    exact hmembers hread

/-- What is used of a text behind an opening bracket leads out of the array. -/
theorem ItemsNest.run?_array {fuel limit : Nat} {tree : Tree} (hitems : ItemsNest fuel)
    (depth : Nat)
    (hread : (match skipSpace text with
      | ']' :: rest => some (atDepth limit (.array []), rest)
      | rest => do
          let (items, rest) ← readItems? fuel (limit - 1) rest
          return (atDepth limit (.array items), rest)) = some (tree, rest)) :
    run? ⟨.between, depth + 1⟩ text = run? ⟨.between, depth⟩ rest := by
  rw [← (free_between _).run?_skipSpace text]
  split at hread
  next rest₁ hclose =>
    cases hread
    rw [hclose, (free_between _).run?_closing rfl (Or.inl rfl)]
  next =>
    obtain ⟨⟨items, rest₁⟩, hread, heq⟩ := Option.bind_eq_some_iff.mp hread
    cases heq
    exact hitems hread

theorem TreesNest.succ {fuel : Nat} (hitems : ItemsNest fuel) (hmembers : MembersNest fuel) :
    TreesNest (fuel + 1) := by
  intro depth limit text rest tree hread
  have hbetween := free_between (depth + 1)
  rw [readTree?] at hread
  rw [← hbetween.run?_skipSpace text]
  split at hread
  next hnull =>
    cases hread
    refine ⟨_, hbetween, rfl, ?_⟩
    rw [hnull]
    exact run?_plain "null".toList (List.all_eq_true.mp rfl)
  next htrue =>
    cases hread
    refine ⟨_, hbetween, rfl, ?_⟩
    rw [htrue]
    exact run?_plain "true".toList (List.all_eq_true.mp rfl)
  next hfalse =>
    cases hread
    refine ⟨_, hbetween, rfl, ?_⟩
    rw [hfalse]
    exact run?_plain "false".toList (List.all_eq_true.mp rfl)
  next rest₁ hquote =>
    obtain ⟨⟨pieces, rest₂⟩, hpieces, heq⟩ := Option.bind_eq_some_iff.mp hread
    cases heq
    exact ⟨_, free_closed _, rfl, by rw [hquote, run?_quote, run?_pieces hpieces]⟩
  next rest₁ hbracket =>
    refine ⟨_, hbetween, rfl, ?_⟩
    rw [hbracket, run?_opening (Or.inl rfl), hitems.run?_array _ hread]
  next rest₁ hbrace =>
    refine ⟨_, hbetween, rfl, ?_⟩
    rw [hbrace, run?_opening (Or.inr rfl), hmembers.run?_object _ hread]
  next rest₁ hsign =>
    refine ⟨_, hbetween, rfl, ?_⟩
    rw [hsign, run?_cons (step?_plain rfl), run?_readNumber hread]
  next => exact ⟨_, hbetween, rfl, run?_readNumber hread⟩

theorem readers_nest (fuel : Nat) : TreesNest fuel ∧ ItemsNest fuel ∧ MembersNest fuel := by
  induction fuel with
  | zero =>
      refine ⟨?_, ?_, ?_⟩
      · intro limit depth text rest tree hread
        cases hread
      · intro limit depth text rest tree hread
        cases hread
      · intro limit depth text rest tree hread
        cases hread
  | succ fuel ih =>
      obtain ⟨htrees, hitems, hmembers⟩ := ih
      exact ⟨TreesNest.succ hitems hmembers, ItemsNest.succ htrees hitems,
        MembersNest.succ htrees hmembers⟩

/-! ## Texts that are printed -/

theorem run?_escaped (c : Char) (rest : List Char) :
    run? ⟨.inside, depth⟩ (escaped c ++ rest) = run? ⟨.inside, depth⟩ rest := by
  rcases escaped_cases c with ⟨e, he, hescaped⟩ | ⟨hcontrol, hescaped⟩ |
    ⟨hquote, hbackslash, hvisible, hescaped⟩
  · have hletter : step? ⟨.escape, depth⟩ e = some ⟨.inside, depth⟩ := by simp [step?, he]
    rw [hescaped, List.cons_append, List.cons_append, List.nil_append,
      run?_cons (t := ⟨.escape, depth⟩) rfl, run?_cons hletter]
  · rw [hescaped]
    simp only [List.cons_append, List.nil_append]
    rw [run?_cons (t := ⟨.escape, depth⟩) rfl, run?_cons (t := ⟨.inside, depth⟩) rfl,
      run?_hexDigit rfl, run?_hexDigit rfl, run?_hexDigit (digit?_hexDigit (by omega)),
      run?_hexDigit (digit?_hexDigit (by omega))]
  · have hstep : step? ⟨.inside, depth⟩ c = some ⟨.inside, depth⟩ := by
      simp [step?, hquote, hbackslash]
    rw [hescaped, List.cons_append, List.nil_append, run?_cons hstep]

theorem run?_quoted (s : String) (rest : List Char) :
    run? ⟨.between, depth + 1⟩ (quoted s ++ rest) = run? ⟨.closed, depth + 1⟩ rest := by
  have hchars (chars : List Char) :
      run? ⟨.inside, depth + 1⟩ (chars.flatMap escaped ++ '"' :: rest) =
        run? ⟨.closed, depth + 1⟩ rest := by
    induction chars with
    | nil => exact run?_cons rfl
    | cons c chars ih => rw [List.flatMap_cons, List.append_assoc, run?_escaped, ih]
  rw [quoted, List.cons_append, List.cons_append, run?_quote, List.append_assoc]
  exact hchars s.toList

theorem plain_allDigits (hdigits : AllDigits text) : ∀ c ∈ text, isPlain c = true :=
  fun c hc => isPlain_of_isDigit (hdigits c hc)

theorem plain_numeral (hnumeral : Numeral text) : ∀ c ∈ text, isPlain c = true := by
  obtain ⟨whole, fraction, exponent, rfl, -, hwhole, hfraction, hexponent⟩ := hnumeral
  simp only [List.forall_mem_append]
  refine ⟨plain_allDigits hwhole, ?_, ?_⟩
  · cases hfraction with
    | absent => simp
    | point hdigits =>
        rw [List.forall_mem_cons]
        exact ⟨rfl, plain_allDigits hdigits⟩
  · cases hexponent with
    | absent => simp
    | mark hsign hdigits =>
        rw [List.forall_mem_cons, List.forall_mem_cons]
        refine ⟨rfl, ?_, plain_allDigits hdigits⟩
        rcases hsign with rfl | rfl <;> rfl

theorem plain_number (n : Number) : ∀ c ∈ n.chars, isPlain c = true := by
  obtain ⟨text, hnumeral, hchars | hchars⟩ := n.exists_numeral
  · rw [hchars, List.forall_mem_cons]
    exact ⟨rfl, plain_numeral hnumeral⟩
  · rw [hchars]
    exact plain_numeral hnumeral

mutual

/-- Behind the text of a document no more containers are open than in front of it. -/
theorem run?_chars (depth : Nat) (rest : List Char) : (v : Value) →
    ∃ s : Standing, s.Free ∧ s.depth = depth + 1 ∧
      run? ⟨.between, depth + 1⟩ (v.chars ++ rest) = s.run? rest
  | .null => ⟨_, free_between _, rfl, run?_plain (Value.chars .null) (List.all_eq_true.mp rfl)⟩
  | .bool true =>
      ⟨_, free_between _, rfl, run?_plain (Value.chars (.bool true)) (List.all_eq_true.mp rfl)⟩
  | .bool false =>
      ⟨_, free_between _, rfl, run?_plain (Value.chars (.bool false)) (List.all_eq_true.mp rfl)⟩
  | .number n => ⟨_, free_between _, rfl, run?_plain _ (plain_number n)⟩
  | .string s => ⟨_, free_closed _, rfl, run?_quoted s rest⟩
  | .array items => by
      obtain ⟨s, hfree, hdepth, hrun⟩ := run?_itemChars (depth + 1) (']' :: rest) items
      refine ⟨_, free_between _, rfl, ?_⟩
      rw [Value.chars, List.cons_append, List.cons_append, run?_opening (Or.inl rfl),
        List.append_assoc]
      exact hrun.trans (hfree.run?_closing hdepth (Or.inl rfl))
  | .object members => by
      obtain ⟨s, hfree, hdepth, hrun⟩ := run?_memberChars (depth + 1) ('\x7d' :: rest) members
      refine ⟨_, free_between _, rfl, ?_⟩
      rw [Value.chars, List.cons_append, List.cons_append, run?_opening (Or.inr rfl),
        List.append_assoc]
      exact hrun.trans (hfree.run?_closing hdepth (Or.inr rfl))

theorem run?_itemChars (depth : Nat) (rest : List Char) : (items : List Value) →
    ∃ s : Standing, s.Free ∧ s.depth = depth + 1 ∧
      run? ⟨.between, depth + 1⟩ (Value.itemChars items ++ rest) = s.run? rest
  | [] => ⟨_, free_between _, rfl, rfl⟩
  | [v] => run?_chars depth rest v
  | v :: w :: more => by
      obtain ⟨s, hfree, hdepth, hrun⟩ :=
        run?_chars depth (',' :: Value.itemChars (w :: more) ++ rest) v
      obtain ⟨t, hfree', hdepth', hrun'⟩ := run?_itemChars depth rest (w :: more)
      refine ⟨t, hfree', hdepth', ?_⟩
      rw [Value.itemChars, List.append_assoc, hrun, List.cons_append,
        hfree.run?_separator hdepth (Or.inl rfl), hrun']
      exact List.cons_ne_nil w more

theorem run?_memberChars (depth : Nat) (rest : List Char) : (members : Members) →
    ∃ s : Standing, s.Free ∧ s.depth = depth + 1 ∧
      run? ⟨.between, depth + 1⟩ (Value.memberChars members ++ rest) = s.run? rest
  | [] => ⟨_, free_between _, rfl, rfl⟩
  | [(k, v)] => by
      obtain ⟨s, hfree, hdepth, hrun⟩ := run?_chars depth rest v
      refine ⟨s, hfree, hdepth, ?_⟩
      rw [Value.memberChars, List.append_assoc, run?_quoted, List.cons_append,
        (free_closed _).run?_separator rfl (Or.inr rfl), hrun]
  | (k, v) :: w :: more => by
      obtain ⟨s, hfree, hdepth, hrun⟩ :=
        run?_chars depth (',' :: Value.memberChars (w :: more) ++ rest) v
      obtain ⟨t, hfree', hdepth', hrun'⟩ := run?_memberChars depth rest (w :: more)
      refine ⟨t, hfree', hdepth', ?_⟩
      rw [Value.memberChars, List.append_assoc, List.append_assoc, run?_quoted, List.cons_append,
        (free_closed _).run?_separator rfl (Or.inr rfl), hrun, List.cons_append,
        hfree.run?_separator hdepth (Or.inl rfl), hrun']
      exact List.cons_ne_nil w more

end

end Standing

/-! ## Texts that cannot be read -/

open Standing

/-- The tree is an array or an object. -/
def Tree.IsContainer : Tree → Prop
  | .array _ => True
  | .object _ => True
  | _ => False

theorem not_isContainer_of_readNumber? {negative : Bool} {text rest : List Char} {tree : Tree}
    (hread : readNumber? negative text = some (tree, rest)) : ¬ tree.IsContainer := by
  unfold readNumber? at hread
  simp only [bind, Option.bind_eq_some_iff] at hread
  obtain ⟨_, -, _, -, _, -, heq⟩ := hread
  cases heq
  split <;> exact id

/-- The text of a container begins with its opening bracket or brace. -/
theorem exists_opening {text : String} {tree : Tree} (hread : Tree.ofText? text = some tree)
    (hcontainer : tree.IsContainer) :
    ∃ c chars, (c = '[' ∨ c = '\x7b') ∧ skipSpace text.toList = c :: chars := by
  unfold Tree.ofText? at hread
  simp only [bind, Option.bind_eq_some_iff] at hread
  obtain ⟨⟨tree', rest⟩, hread, hrest⟩ := hread
  obtain rfl : tree' = tree := by
    split at hrest
    · exact Option.some.inj hrest
    · cases hrest
  rw [readTree?] at hread
  split at hread
  next =>
    cases hread
    exact hcontainer.elim
  next =>
    cases hread
    exact hcontainer.elim
  next =>
    cases hread
    exact hcontainer.elim
  next =>
    obtain ⟨⟨pieces, _⟩, -, heq⟩ := Option.bind_eq_some_iff.mp hread
    cases heq
    cases hstring : stringOf? pieces <;>
      · rw [hstring] at hcontainer
        exact hcontainer.elim
  next heq => exact ⟨_, _, Or.inl rfl, heq⟩
  next heq => exact ⟨_, _, Or.inr rfl, heq⟩
  next => exact absurd hcontainer (not_isContainer_of_readNumber? hread)
  next => exact absurd hcontainer (not_isContainer_of_readNumber? hread)

/-- Behind its opening bracket or brace, the text of a container that is read leads out of all
containers. -/
theorem run?_of_ofText? {text : String} {tree : Tree} {c : Char} {chars : List Char}
    (hc : c = '[' ∨ c = '\x7b') (htext : skipSpace text.toList = c :: chars)
    (hread : Tree.ofText? text = some tree) :
    run? ⟨.between, 1⟩ chars = some ⟨.between, 0⟩ := by
  unfold Tree.ofText? at hread
  simp only [bind, Option.bind_eq_some_iff] at hread
  obtain ⟨⟨tree', rest⟩, hread, hrest⟩ := hread
  have hblank : skipSpace rest = [] := by
    split at hrest
    next hempty => exact List.isEmpty_iff.mp hempty
    next => cases hrest
  obtain ⟨-, hitems, hmembers⟩ := readers_nest text.toList.length
  have hrun : run? ⟨.between, 1⟩ chars = run? ⟨.between, 0⟩ rest := by
    rw [readTree?, htext] at hread
    rcases hc with rfl | rfl
    · exact hitems.run?_array 0 hread
    · exact hmembers.run?_object 0 hread
  rw [hrun, ← (free_between 0).run?_skipSpace, hblank]
  rfl

/-- Behind its opening brace, the text of a printed object leads out of the object. -/
theorem run?_object (depth : Nat) (members : Members) :
    run? ⟨.between, depth + 1⟩ (Value.memberChars members ++ ['\x7d']) =
      some ⟨.between, depth⟩ := by
  obtain ⟨s, hfree, hdepth, hrun⟩ := run?_memberChars depth ['\x7d'] members
  rw [hrun, hfree.run?_closing hdepth (Or.inr rfl)]
  rfl

/-- No text is read in which something stands in front of an object with a member, if it begins
like a container itself. -/
theorem ofText?_eq_none_of_before {text : String} {before object : List Char} {o c : Char}
    (hletter : ∀ depth, step? ⟨.closed, depth⟩ c = none)
    (hobject : ∀ depth, run? ⟨.between, depth + 1⟩ ('"' :: c :: object) = some ⟨.between, depth⟩)
    (ho : o = '[' ∨ o = '\x7b')
    (htext : skipSpace text.toList = o :: (before ++ '\x7b' :: '"' :: c :: object)) :
    Tree.ofText? text = none := by
  cases hread : Tree.ofText? text with
  | none => rfl
  | some tree =>
      have hrun := run?_of_ofText? ho htext hread
      rw [run?_append] at hrun
      obtain ⟨⟨place, depth⟩, -, hrun⟩ := Option.bind_eq_some_iff.mp hrun
      cases place with
      | between =>
          cases depth with
          | zero => cases hrun
          | succ depth =>
              -- the containers that are open in front of the object are open behind it
              rw [run?_opening (Or.inr rfl), hobject] at hrun
              cases hrun
      | closed => cases depth <;> cases hrun
      | inside =>
          -- the quote in front of the key is taken for the end of a string
          rw [run?_cons (t := ⟨.inside, depth⟩) rfl, run?_cons (t := ⟨.closed, depth⟩) rfl, run?,
            hletter] at hrun
          cases hrun
      | escape => cases hrun

end Mandate.Json
