import Mandate.Proofs.Fallible
import Mandate.Proofs.Number.Digits
import Mandate.Proofs.Text.Cuts
import Mandate.Rules.FieldPath

/-! # The grammar of paths

A token of a path is a machine word, or a name without an opening bracket, or groups of machine
words in brackets that may have such a name before them. These are the tokens that a path may be
made of, and there is one way only to read each of them: a word is an index even where it would be
a name, and a group is an index.
-/

namespace Mandate.Rules.FieldPath

open Text

variable {token rest word after : List Char} {steps : List Step} {is : List Nat} {fuel : Nat}

/-! ## Groups in brackets -/

/-- How the text behind a name can begin: with a group, with something that is closed but was not
opened, or with something that is never closed. -/
inductive Front : List Char → Prop where
  | nothing : Front []
  | unclosed {c : Char} {rest : List Char} (hclosed : ']' ∉ c :: rest) : Front (c :: rest)
  | stray {c : Char} {rest : List Char} (hclosed : ']' ∈ c :: rest) (hopened : c ≠ '[') :
      Front (c :: rest)
  | group {inside after : List Char} (hclosed : ']' ∉ inside) :
      Front ('[' :: inside ++ ']' :: after)

theorem front : (rest : List Char) → Front rest
  | [] => .nothing
  | c :: rest => by
      by_cases hclosed : ']' ∈ c :: rest
      · by_cases hopened : c = '['
        · obtain ⟨before, after, hrest, hbefore⟩ := List.eq_append_cons_of_mem hclosed
          cases before with
          | nil =>
              obtain rfl : c = ']' := (List.cons.inj hrest).1
              cases hopened
          | cons d inside =>
              obtain ⟨rfl, rfl⟩ := List.cons.inj hrest
              subst hopened
              exact .group fun hmem => hbefore (List.mem_cons_of_mem _ hmem)
        · exact .stray hclosed hopened
      · exact .unclosed hclosed

theorem indices_nil (fuel : Nat) : indices fuel [] = .ok [] := by
  cases fuel <;> rfl

theorem indices_unclosed {c : Char} (hclosed : ']' ∉ c :: rest) :
    indices (fuel + 1) (c :: rest) = .error .unclosed := by
  rw [indices, splitOnce_of_notMem hclosed]

theorem indices_stray {c : Char} (hclosed : ']' ∈ c :: rest) (hopened : c ≠ '[') :
    indices (fuel + 1) (c :: rest) = .error .trailing := by
  obtain ⟨before, after, hrest, hbefore⟩ := List.eq_append_cons_of_mem hclosed
  rw [indices, hrest, splitOnce_append hbefore]
  exact if_pos hopened

theorem indices_group (hclosed : ']' ∉ word) :
    indices (fuel + 1) ('[' :: word ++ ']' :: after) =
      match word? word with
      | none => .error .badIndex
      | some i => (indices fuel after).map (.index i :: ·) := by
  have hopened : ']' ∉ '[' :: word := List.not_mem_cons_of_ne_of_not_mem (by decide) hclosed
  have hsplit := splitOnce_append hopened after
  rw [List.cons_append] at hsplit ⊢
  rw [indices, hsplit]
  simp only [ne_eq, not_true_eq_false, reduceIte, List.drop_succ_cons, List.drop_zero]
  cases word? word with
  | none => rfl
  | some i => cases indices fuel after <;> rfl

/-- A group takes up at least one turn of the loop. -/
theorem length_le_of_group (hfuel : ('[' :: word ++ ']' :: after).length ≤ fuel + 1) :
    after.length ≤ fuel := by
  simp only [List.length_append, List.length_cons] at hfuel
  omega

/-- One machine word in brackets after the other, and nothing else. -/
inductive Groups : List Char → List Nat → Prop where
  | nil : Groups [] []
  | cons {word rest : List Char} {i : Nat} {is : List Nat} (hword : WritesWord word i)
      (hrest : Groups rest is) : Groups ('[' :: word ++ ']' :: rest) (i :: is)

theorem Groups.opened (hgroups : Groups rest is) : ∀ c ∈ rest.head?, c = '[' := by
  cases hgroups with
  | nil => exact nofun
  | cons => exact fun c hc => (Option.some.inj hc).symm

/-- Groups begin with a group, or there are none. -/
theorem Groups.cases_front {is : List Nat} (hgroups : Groups rest is) :
    (rest = [] ∧ is = []) ∨ ∃ word after i more, rest = '[' :: word ++ ']' :: after ∧
      ']' ∉ word ∧ WritesWord word i ∧ Groups after more ∧ is = i :: more := by
  cases hgroups with
  | nil => exact .inl ⟨rfl, rfl⟩
  | cons hword hrest =>
      exact .inr ⟨_, _, _, _, rfl, hword.notMem (by decide) rfl, hword, hrest, rfl⟩

theorem groups_group_iff (hclosed : ']' ∉ word) : Groups ('[' :: word ++ ']' :: after) is ↔
    ∃ i more, WritesWord word i ∧ Groups after more ∧ is = i :: more := by
  constructor
  · intro hgroups
    rcases hgroups.cases_front with ⟨hnil, -⟩ | ⟨other, last, i, more, heq, hother, hword, hmore, his⟩
    · cases hnil
    · obtain ⟨rfl, rfl⟩ := append_cons_inj hclosed hother (List.cons.inj heq).2
      exact ⟨i, more, hword, hmore, his⟩
  · rintro ⟨i, more, hword, hmore, rfl⟩
    exact .cons hword hmore

theorem groups_nil_iff : Groups [] is ↔ is = [] := by
  constructor
  · intro hgroups
    rcases hgroups.cases_front with ⟨-, hnone⟩ | ⟨_, _, _, _, hnil, -⟩
    · exact hnone
    · cases hnil
  · rintro rfl
    exact .nil

/-- Groups open a bracket, and close one. -/
theorem Groups.of_cons {c : Char} (hgroups : Groups (c :: rest) is) :
    c = '[' ∧ ']' ∈ c :: rest := by
  rcases hgroups.cases_front with ⟨hnil, -⟩ | ⟨_, _, _, _, hfront, -⟩
  · cases hnil
  · rw [hfront]
    exact ⟨(List.cons.inj hfront).1, List.mem_append_right _ List.mem_cons_self⟩

/-- Groups are read as the indices that they write, and nothing else is read. -/
theorem indices_eq_ok_iff (hfuel : rest.length ≤ fuel) :
    indices fuel rest = .ok steps ↔ ∃ is, Groups rest is ∧ steps = is.map .index := by
  -- along the turns of the loop; a text that does not begin with a group ends it
  induction fuel generalizing rest steps with
  | zero =>
      obtain rfl := List.length_eq_zero_iff.mp (Nat.le_zero.mp hfuel)
      simp [indices_nil, groups_nil_iff, eq_comm]
  | succ fuel ih =>
      cases front rest with
      | nothing =>
          simp [indices_nil, groups_nil_iff, eq_comm]
      | unclosed hclosed =>
          rw [indices_unclosed hclosed]
          exact ⟨nofun, fun ⟨is, hgroups, _⟩ => absurd hgroups.of_cons.2 hclosed⟩
      | stray hclosed hopened =>
          rw [indices_stray hclosed hopened]
          exact ⟨nofun, fun ⟨is, hgroups, _⟩ => absurd hgroups.of_cons.1 hopened⟩
      | @group inside after hclosed =>
          have hafter := length_le_of_group hfuel
          simp only [indices_group hclosed, groups_group_iff hclosed, ← word?_eq_some_iff]
          cases word? inside with
          | none => simp
          | some i =>
              constructor
              · intro hindices
                obtain ⟨more, hmore, rfl⟩ := Fallible.exists_of_map_eq_ok hindices
                obtain ⟨is, his, rfl⟩ := (ih hafter).mp hmore
                exact ⟨i :: is, ⟨i, is, rfl, his, rfl⟩, rfl⟩
              · rintro ⟨_, ⟨_, more, hword, hmore, rfl⟩, rfl⟩
                cases hword
                rw [(ih hafter).mpr ⟨more, hmore, rfl⟩]
                rfl

/-! ## Tokens -/

/-- The step to which a name leads, if there is one. -/
def nameSteps (name : List Char) : List Step :=
  if name.isEmpty then [] else [.key (String.ofList name)]

/-- A token is a name without an opening bracket, and what there is from the bracket on. -/
theorem exists_name (token : List Char) :
    ∃ name rest, token = name ++ rest ∧ '[' ∉ name ∧ ∀ c ∈ rest.head?, c = '[' := by
  by_cases hopened : '[' ∈ token
  · obtain ⟨name, after, rfl, hplain⟩ := List.eq_append_cons_of_mem hopened
    exact ⟨name, '[' :: after, rfl, hplain, by simp⟩
  · exact ⟨token, [], (List.append_nil _).symm, hopened, by simp⟩

theorem tokenSteps_of_word {i : Nat} (hword : WritesWord token i) :
    tokenSteps token = .ok [.index i] := by
  have hsome : token.isEmpty = false := List.isEmpty_eq_false_iff.mpr hword.ne_nil
  rw [tokenSteps, hsome, word?_eq_some_iff.mpr hword]
  rfl

/-- A token that is not a word is read as its name and the groups behind it. -/
theorem tokenSteps_append {name : List Char} (hsome : name ++ rest ≠ [])
    (hword : word? (name ++ rest) = none) (hplain : '[' ∉ name)
    (hrest : ∀ c ∈ rest.head?, c = '[') :
    tokenSteps (name ++ rest) =
      (indices (name ++ rest).length rest).map (nameSteps name ++ ·) := by
  have hname : (name ++ rest).takeWhile (· ≠ '[') = name := by
    have hall : ∀ c ∈ name, decide (c ≠ '[') = true := by
      intro c hc
      exact decide_eq_true fun heq => hplain (heq ▸ hc)
    rw [List.takeWhile_append_of_pos hall]
    cases rest with
    | nil => simp
    | cons c rest =>
        obtain rfl := hrest c rfl
        simp
  have hempty : (name ++ rest).isEmpty = false := List.isEmpty_eq_false_iff.mpr hsome
  rw [tokenSteps, hempty, hword]
  simp only [Bool.false_eq_true, reduceIte, hname, List.drop_left]
  rfl

/-- What a token says: a machine word is an index, and anything else is a name with groups. -/
inductive Says : List Char → List Step → Prop where
  | index {token : List Char} {i : Nat} (hword : WritesWord token i) : Says token [.index i]
  | named {name rest : List Char} {is : List Nat} (hsome : name ++ rest ≠ [])
      (hword : ∀ i, ¬ WritesWord (name ++ rest) i) (hplain : '[' ∉ name)
      (hgroups : Groups rest is) : Says (name ++ rest) (nameSteps name ++ is.map .index)

/-- Tokens are read as what they say, and nothing else is read. -/
theorem tokenSteps_eq_ok_iff : tokenSteps token = .ok steps ↔ Says token steps := by
  constructor
  · intro hsteps
    cases hword : word? token with
    | some i =>
        rw [word?_eq_some_iff] at hword
        rw [tokenSteps_of_word hword] at hsteps
        cases hsteps
        exact .index hword
    | none =>
        obtain ⟨name, rest, rfl, hplain, hrest⟩ := exists_name token
        by_cases hsome : name ++ rest = []
        · rw [hsome] at hsteps
          cases hsteps
        · rw [tokenSteps_append hsome hword hplain hrest] at hsteps
          obtain ⟨_, hindices, rfl⟩ := Fallible.exists_of_map_eq_ok hsteps
          obtain ⟨is, hgroups, rfl⟩ := (indices_eq_ok_iff (by simp)).mp hindices
          exact .named hsome (word?_eq_none_iff.mp hword) hplain hgroups
  · rintro (hword | ⟨hsome, hword, hplain, hgroups⟩)
    · exact tokenSteps_of_word hword
    · next name rest is =>
      rw [tokenSteps_append hsome (word?_eq_none_iff.mpr hword) hplain hgroups.opened,
        (indices_eq_ok_iff (by simp)).mpr ⟨is, hgroups, rfl⟩]
      rfl

/-- The tokens that a path may be made of. -/
inductive Grammatical : List Char → Prop where
  | word {token : List Char} {i : Nat} (hword : WritesWord token i) : Grammatical token
  | name {token : List Char} (hplain : '[' ∉ token) : Grammatical token
  | grouped {name groups : List Char} {is : List Nat} (hplain : '[' ∉ name)
      (hgroups : Groups groups is) (hsome : is ≠ []) : Grammatical (name ++ groups)

theorem exists_says_iff : (∃ steps, Says token steps) ↔ token ≠ [] ∧ Grammatical token := by
  constructor
  · rintro ⟨_, hword | ⟨hsome, hword, hplain, hgroups⟩⟩
    · exact ⟨hword.ne_nil, .word hword⟩
    · next name rest is =>
      refine ⟨hsome, ?_⟩
      cases is with
      | nil =>
          cases hgroups
          rw [List.append_nil]
          exact .name hplain
      | cons i more => exact .grouped hplain hgroups (List.cons_ne_nil _ _)
  · rintro ⟨hsome, hgrammatical⟩
    -- what can be read as a word is an index, in whatever other way it is grammatical
    by_cases hword : ∃ i, WritesWord token i
    · obtain ⟨i, hword⟩ := hword
      exact ⟨_, .index hword⟩
    · have hother : ∀ i, ¬ WritesWord token i := not_exists.mp hword
      cases hgrammatical with
      | word hword => exact absurd hword (hother _)
      | name hplain =>
          rw [← List.append_nil token] at hsome hother ⊢
          exact ⟨_, .named hsome hother hplain .nil⟩
      | grouped hplain hgroups _ => exact ⟨_, .named hsome hother hplain hgroups⟩

/-! ## Paths -/

theorem exists_allSteps_iff {tokens : List (List Char)} :
    (∃ steps, allSteps tokens = .ok steps) ↔ ∀ token ∈ tokens, ∃ steps, Says token steps := by
  induction tokens with
  | nil => exact ⟨fun _ => nofun, fun _ => ⟨[], rfl⟩⟩
  | cons token rest ih =>
      rw [List.forall_mem_cons, ← ih]
      constructor
      · rintro ⟨_, hsteps⟩
        obtain ⟨first, hfirst, hsteps⟩ := Fallible.exists_of_bind_eq_ok hsteps
        obtain ⟨more, hmore, -⟩ := Fallible.exists_of_bind_eq_ok hsteps
        exact ⟨⟨first, tokenSteps_eq_ok_iff.mp hfirst⟩, more, hmore⟩
      · rintro ⟨⟨first, hfirst⟩, more, hmore⟩
        refine ⟨first ++ more, ?_⟩
        rw [allSteps, Fallible.bind_of_ok (tokenSteps_eq_ok_iff.mpr hfirst),
          Fallible.bind_of_ok hmore]
        rfl

/-- A text is a path exactly if all its tokens are grammatical, and none of them is empty. -/
theorem parse_ok_iff {raw : String} : (∃ path, parse raw = .ok path) ↔
    raw ≠ "" ∧ ∀ token ∈ splitOn '.' raw.toList, token ≠ [] ∧ Grammatical token := by
  simp only [← exists_says_iff, ← exists_allSteps_iff]
  unfold parse
  split
  next hempty =>
    rw [String.isEmpty_iff.mp hempty]
    simp
  next hsome =>
    have hne : raw ≠ "" := fun heq => hsome (String.isEmpty_iff.mpr heq)
    cases allSteps (splitOn '.' raw.toList) <;> simp [hne]

end Mandate.Rules.FieldPath
