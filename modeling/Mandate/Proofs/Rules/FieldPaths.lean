import Mandate.Proofs.Rules.PathScan

/-! # Paths address nodes

A path is written for the steps from the root of a document to a node: keys and indices, where an
index stands in brackets behind what it is an index of, or is a token of its own. However the
indices are written, the path is read as these steps and leads to this node, as long as its keys
cannot be taken for something else.
-/

namespace Mandate.Rules

open Json Text

/-- A key that cannot be taken for anything else, or an index that is a machine word, as every
position in an array is. -/
def Step.Writable : Step → Prop
  | .key name =>
      name ≠ "" ∧ '.' ∉ name.toList ∧ '[' ∉ name.toList ∧ ∀ i, ¬ WritesWord name.toList i
  | .index i => i ≤ wordMax

namespace FieldPath

/-! ## Paths in writing -/

/-- An index in brackets. -/
def groupText (i : Nat) : List Char := '[' :: ofNat i ++ [']']

/-- A token of a path in writing: an index, a key with indices in brackets behind it, or such
indices alone. -/
inductive Piece where
  | bare (i : Nat)
  | member (name : String) (indices : List Nat)
  | items (first : Nat) (more : List Nat)
  deriving DecidableEq, Repr

namespace Piece

def text : Piece → List Char
  | .bare i => ofNat i
  | .member name indices => name.toList ++ indices.flatMap groupText
  | .items first more => (first :: more).flatMap groupText

/-- The steps for which a token is written. -/
def steps : Piece → List Step
  | .bare i => [.index i]
  | .member name indices => .key name :: indices.map .index
  | .items first more => (first :: more).map .index

end Piece

/-- The path that is made of some tokens. -/
def written (pieces : List Piece) : String :=
  String.ofList (['.'].intercalate (pieces.map Piece.text))

/-- One more step before some tokens. Indices in brackets are taken up. -/
def prepend : Step → List Piece → List Piece
  | .key name, .items first more :: pieces => .member name (first :: more) :: pieces
  | .key name, pieces => .member name [] :: pieces
  | .index i, .items first more :: pieces => .items i (first :: more) :: pieces
  | .index i, pieces => .items i [] :: pieces

/-- The tokens for some steps if every index stands in brackets, behind a key where there is one. -/
def bracketed (steps : List Step) : List Piece := steps.foldr prepend []

theorem flatMap_steps_prepend (step : Step) (pieces : List Piece) :
    (prepend step pieces).flatMap Piece.steps = step :: pieces.flatMap Piece.steps := by
  unfold prepend
  split <;> rfl

theorem flatMap_steps_bracketed (steps : List Step) :
    (bracketed steps).flatMap Piece.steps = steps := by
  induction steps with
  | nil => rfl
  | cons step rest ih =>
      rw [bracketed, List.foldr_cons, flatMap_steps_prepend]
      exact congrArg (step :: ·) ih

/-! ## Paths are read as they were written -/

variable {doc node : Value} {steps : List Step} {piece : Piece} {pieces : List Piece}

theorem groups_flatMap {indices : List Nat} (hindices : ∀ i ∈ indices, i ≤ wordMax) :
    Groups (indices.flatMap groupText) indices := by
  induction indices with
  | nil => exact .nil
  | cons i rest ih =>
      obtain ⟨hi, hrest⟩ := List.forall_mem_cons.mp hindices
      have hgroups := Groups.cons (writesWord_ofNat hi) (ih hrest)
      simpa [groupText] using hgroups

theorem not_writesWord_of_opening {text : List Char} (hopening : '[' ∈ text) (i : Nat) :
    ¬ WritesWord text i :=
  fun hwrites => hwrites.notMem (by decide) rfl hopening

theorem opening_mem_flatMap (first : Nat) (more : List Nat) :
    '[' ∈ (first :: more).flatMap groupText :=
  List.mem_append_left _ List.mem_cons_self

theorem nameSteps_toList {name : String} (hname : name ≠ "") :
    nameSteps name.toList = [.key name] := by
  have hsome : name.toList.isEmpty = false := by simpa using hname
  rw [nameSteps, hsome, String.ofList_toList]
  rfl

/-- A token in writing says the steps for which it is written. -/
theorem says_text (hwritable : ∀ step ∈ piece.steps, step.Writable) :
    Says piece.text piece.steps := by
  cases piece with
  | bare i => exact .index (writesWord_ofNat (hwritable _ List.mem_cons_self))
  | member name indices =>
      obtain ⟨⟨hname, -, hplain, hother⟩, hindices⟩ := List.forall_mem_cons.mp hwritable
      have hgroups := groups_flatMap (List.forall_mem_map.mp hindices)
      have hsome : name.toList ++ indices.flatMap groupText ≠ [] := by simp [hname]
      have hword : ∀ i, ¬ WritesWord (name.toList ++ indices.flatMap groupText) i := by
        cases indices with
        | nil => simpa using hother
        | cons first more =>
            exact not_writesWord_of_opening
              (List.mem_append_right _ (opening_mem_flatMap first more))
      have hsays := Says.named hsome hword hplain hgroups
      rwa [nameSteps_toList hname] at hsays
  | items first more =>
      have hgroups := groups_flatMap (List.forall_mem_map.mp hwritable)
      have hopening := opening_mem_flatMap first more
      exact @Says.named [] _ _ (List.ne_nil_of_mem hopening) (not_writesWord_of_opening hopening)
        List.not_mem_nil hgroups

theorem dot_notMem_ofNat (i : Nat) : '.' ∉ ofNat i :=
  fun hmem => absurd (isDigit_of_mem_toDigits hmem) (by decide)

theorem dot_notMem_groupText (i : Nat) : '.' ∉ groupText i := by
  simp [groupText, dot_notMem_ofNat]

theorem dot_notMem_text (hwritable : ∀ step ∈ piece.steps, step.Writable) :
    '.' ∉ piece.text := by
  cases piece with
  | bare i => exact dot_notMem_ofNat i
  | member name indices =>
      obtain ⟨-, hdot, -, -⟩ := hwritable (.key name) List.mem_cons_self
      simp [Piece.text, hdot, dot_notMem_groupText]
  | items first more => simp [Piece.text, dot_notMem_groupText]

theorem allSteps_map_text (hwritable : ∀ step ∈ pieces.flatMap Piece.steps, step.Writable) :
    allSteps (pieces.map Piece.text) = .ok (pieces.flatMap Piece.steps) := by
  induction pieces with
  | nil => rfl
  | cons piece rest ih =>
      rw [List.flatMap_cons] at hwritable
      obtain ⟨hpiece, hrest⟩ := List.forall_mem_append.mp hwritable
      rw [List.map_cons, allSteps,
        Fallible.bind_of_ok (tokenSteps_eq_ok_iff.mpr (says_text hpiece)),
        Fallible.bind_of_ok (ih hrest)]
      rfl

/-- A path in writing is read as the steps for which it is written. -/
theorem parse_written (hsome : pieces ≠ [])
    (hwritable : ∀ step ∈ pieces.flatMap Piece.steps, step.Writable) :
    parse (written pieces) = .ok ⟨written pieces, pieces.flatMap Piece.steps⟩ := by
  have hpiece : ∀ piece ∈ pieces, ∀ step ∈ piece.steps, step.Writable := fun piece hpiece step
    hstep => hwritable step (List.mem_flatMap.mpr ⟨piece, hpiece, hstep⟩)
  have hcut : splitOn '.' (written pieces).toList = pieces.map Piece.text := by
    rw [written, String.toList_ofList]
    refine splitOn_intercalate (by simpa using hsome) ?_
    exact List.forall_mem_map.mpr fun piece hmem => dot_notMem_text (hpiece piece hmem)
  have hraw : written pieces ≠ "" := by
    -- the empty text is cut into one empty token, and no token in writing is empty
    intro hraw
    rw [hraw] at hcut
    have hempty : [] ∈ pieces.map Piece.text := hcut ▸ List.mem_singleton_self _
    obtain ⟨piece, hmem, hnil⟩ := List.mem_map.mp hempty
    exact (exists_says_iff.mp ⟨_, says_text (hpiece piece hmem)⟩).1 hnil
  rw [parse, if_neg (mt String.isEmpty_iff.mp hraw), hcut, allSteps_map_text hwritable]

/-! ## Nodes -/

/-- From a document steps lead to a node below it. -/
inductive Reaches : Value → List Step → Value → Prop where
  | root (node : Value) : Reaches node [] node
  | member {members : Members} {name : String} {child node : Value} {steps : List Step}
      (hmember : members.lookup name = some child) (hrest : Reaches child steps node) :
      Reaches (.object members) (.key name :: steps) node
  | item {items : List Value} {i : Nat} {child node : Value} {steps : List Step}
      (hitem : items[i]? = some child) (hrest : Reaches child steps node) :
      Reaches (.array items) (.index i :: steps) node

/-- Following steps finds the node to which they lead, and nothing else. -/
theorem resolveSteps_eq_some_iff : resolveSteps steps doc = some node ↔ Reaches doc steps node := by
  constructor
  · intro hfound
    induction steps generalizing doc with
    | nil =>
        cases hfound
        exact .root node
    | cons step rest ih =>
        obtain ⟨child, hfollow, hrest⟩ := Option.bind_eq_some_iff.mp hfound
        unfold follow at hfollow
        split at hfollow
        · exact .member hfollow (ih hrest)
        · exact .item hfollow (ih hrest)
        · cases hfollow
  · intro hreaches
    induction hreaches with
    | root node => rfl
    | member hmember _ ih => rw [resolveSteps, follow, hmember, Option.bind_some, ih]
    | item hitem _ ih => rw [resolveSteps, follow, hitem, Option.bind_some, ih]

/-- A text is a path exactly if it is not empty and cutting it at the dots leaves tokens that are
grammatical and not empty. A reading by byte positions comes to the same, and never asks for a slice
outside the text or inside a character, whatever the text is. To every node below the root of a
document, if the keys on the way cannot be taken for anything else, there are paths in writing; each
index stands in brackets or is a token of its own, and each of these paths is read as the steps to
the node and finds it. -/
theorem paths_read_and_resolved :
    (∀ raw, (∃ path, parse raw = .ok path) ↔
      raw ≠ "" ∧ ∀ token ∈ splitOn '.' raw.toList, token ≠ [] ∧ Grammatical token) ∧
    (∀ raw, scan raw = some (parse raw)) ∧
    ∀ doc steps node, Reaches doc steps node → steps ≠ [] → (∀ step ∈ steps, step.Writable) →
      (bracketed steps).flatMap Piece.steps = steps ∧
      ∀ pieces, pieces.flatMap Piece.steps = steps →
        parse (written pieces) = .ok ⟨written pieces, steps⟩ ∧
        (⟨written pieces, steps⟩ : FieldPath).resolve doc = some node := by
  refine ⟨fun raw => parse_ok_iff, scan_eq, ?_⟩
  intro doc steps node hreaches hsome hwritable
  refine ⟨flatMap_steps_bracketed steps, ?_⟩
  rintro pieces rfl
  have hpieces : pieces ≠ [] := by
    rintro rfl
    exact hsome rfl
  exact ⟨parse_written hpieces hwritable, resolveSteps_eq_some_iff.mpr hreaches⟩

/-- A document with a list of items. -/
def basket : Value :=
  .object [("items", .array [.object [("sku", .string "a")], .object [("sku", .string "b")]])]

/-- The second item is found with its index in brackets and with its index alone. -/
theorem second_item_found :
    let steps : List Step := [.key "items", .index 1, .key "sku"]
    Reaches basket steps (.string "b") ∧
    parse "items[1].sku" = .ok ⟨"items[1].sku", steps⟩ ∧
    parse "items.1.sku" = .ok ⟨"items.1.sku", steps⟩ ∧
    (⟨"items.1.sku", steps⟩ : FieldPath).resolve basket = some (.string "b") := by
  intro steps
  have hreaches : Reaches basket steps (.string "b") :=
    .member rfl (.item rfl (.member rfl (.root _)))
  have hitems : (Step.key "items").Writable :=
    ⟨by decide, by decide, by decide, word?_eq_none_iff.mp rfl⟩
  have hindex : (Step.index 1).Writable := show 1 ≤ wordMax by decide
  have hsku : (Step.key "sku").Writable :=
    ⟨by decide, by decide, by decide, word?_eq_none_iff.mp rfl⟩
  have hwritable : ∀ step ∈ steps, step.Writable := by
    simp [steps, hitems, hindex, hsku]
  obtain ⟨hbracketed, hwritten⟩ :=
    paths_read_and_resolved.2.2 basket steps _ hreaches (List.cons_ne_nil _ _) hwritable
  have hbare := hwritten [.member "items" [], .bare 1, .member "sku" []] rfl
  exact ⟨hreaches, (hwritten _ hbracketed).1, hbare.1, hbare.2⟩

end FieldPath

end Mandate.Rules
