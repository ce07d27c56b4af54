import Mandate.Digest
import Mandate.Proofs.Fallible
import Mandate.Proofs.Json.Boundaries
import Mandate.Proofs.Text.Base64Url
import Mandate.Rules.RuleSet

/-! # What digests commit to

Every digest is taken of canonical texts. These tell their documents apart, also where two of them
stand one behind the other with nothing in between, as in front of the hash that makes a trace
identifier: a policy body is an object, and its opening brace belongs to no word and no number. So
documents with equal digests are the same, unless the hash function makes two different texts
collide.

Documents count as the same if they have the same canonical form. For documents with their members
in key order, as they are read from texts, this is equality.
-/

namespace Mandate

open Json Text

/-! ## Canonical texts -/

namespace Json

mutual

/-- The canonical form of a document holds no numbers of its own. -/
theorem Value.numbers_sorted_subset : (v : Value) → v.sorted.numbers ⊆ v.numbers
  | .null => List.Subset.refl _
  | .bool _ => List.Subset.refl _
  | .number _ => List.Subset.refl _
  | .string _ => List.Subset.refl _
  | .array items => Value.itemNumbers_sortedItems_subset items
  | .object members => by
      intro n hn
      obtain ⟨entry, hentry, hnumber⟩ := Value.mem_memberNumbers.mp hn
      obtain ⟨-, hmem⟩ := Members.sorted_ofList (Value.sortedMembers members)
      exact Value.memberNumbers_sortedMembers_subset members
        (Value.mem_memberNumbers.mpr ⟨entry, hmem entry hentry, hnumber⟩)

theorem Value.itemNumbers_sortedItems_subset : (items : List Value) →
    Value.itemNumbers (Value.sortedItems items) ⊆ Value.itemNumbers items
  | [] => List.Subset.refl _
  | v :: rest => by
      rw [Value.sortedItems, Value.itemNumbers, Value.itemNumbers]
      exact List.append_subset.mpr
        ⟨List.subset_append_of_subset_left _ (Value.numbers_sorted_subset v),
          List.subset_append_of_subset_right _ (Value.itemNumbers_sortedItems_subset rest)⟩

theorem Value.memberNumbers_sortedMembers_subset : (members : Members) →
    Value.memberNumbers (Value.sortedMembers members) ⊆ Value.memberNumbers members
  | [] => List.Subset.refl _
  | (_, v) :: rest => by
      rw [Value.sortedMembers, Value.memberNumbers, Value.memberNumbers]
      exact List.append_subset.mpr
        ⟨List.subset_append_of_subset_left _ (Value.numbers_sorted_subset v),
          List.subset_append_of_subset_right _ (Value.memberNumbers_sortedMembers_subset rest)⟩

end

/-- No two numbers in some documents are printed alike. -/
def NumbersApart (docs : List Value) : Prop :=
  Set.InjOn Number.chars {n | ∃ v ∈ docs, n ∈ v.numbers}

theorem numbersApart_of_integers {docs : List Value}
    (hintegers : ∀ v ∈ docs, ∀ n ∈ v.numbers, ∃ k, n = .int k) : NumbersApart docs := by
  rintro m ⟨v, hv, hm⟩ n ⟨w, hw, hn⟩ heq
  obtain ⟨k, rfl⟩ := hintegers v hv m hm
  obtain ⟨l, rfl⟩ := hintegers w hw n hn
  rw [Number.int_chars_inj heq]

variable {docs : List Value} {v w : Value}

/-- A canonical text tells its document and where it ends. -/
theorem NumbersApart.sorted_append_inj (hapart : NumbersApart docs) (hv : v ∈ docs)
    (hw : w ∈ docs) {rest more : List Char} (hrest : EndsPlain rest) (hmore : EndsPlain more)
    (heq : v.sorted.chars ++ rest = w.sorted.chars ++ more) :
    v.sorted = w.sorted ∧ rest = more :=
  chars_append_inj hapart v.sorted w.sorted
    (fun _ hn => ⟨v, hv, Value.numbers_sorted_subset v hn⟩)
    (fun _ hn => ⟨w, hw, Value.numbers_sorted_subset w hn⟩) hrest hmore heq

theorem NumbersApart.canonicalText_eq_iff (hapart : NumbersApart docs) (hv : v ∈ docs)
    (hw : w ∈ docs) : v.canonicalText = w.canonicalText ↔ v.sorted = w.sorted := by
  constructor
  · intro htexts
    have hchars : v.sorted.chars ++ [] = w.sorted.chars ++ [] := by
      rw [List.append_nil, List.append_nil]
      exact String.ofList_injective htexts
    exact (hapart.sorted_append_inj hv hw endsPlain_nil endsPlain_nil hchars).1
  · exact congrArg Value.text

theorem endsPlain_object (members : Members) : EndsPlain (Value.object members).sorted.chars :=
  endsPlain_cons rfl _

/-- Behind a canonical text that of an object can be told where it begins. -/
theorem NumbersApart.canonicalTexts_eq_iff {m n : Members} (hapart : NumbersApart docs)
    (hv : v ∈ docs) (hw : w ∈ docs) (hm : .object m ∈ docs) (hn : .object n ∈ docs) :
    v.canonicalText ++ (Value.object m).canonicalText =
        w.canonicalText ++ (Value.object n).canonicalText ↔
      v.sorted = w.sorted ∧ (Value.object m).sorted = (Value.object n).sorted := by
  constructor
  · intro htexts
    have hchars : v.sorted.chars ++ (Value.object m).sorted.chars =
        w.sorted.chars ++ (Value.object n).sorted.chars := by
      simpa [Value.canonicalText, Value.text] using congrArg String.toList htexts
    obtain ⟨hinputs, hbodies⟩ :=
      hapart.sorted_append_inj hv hw (endsPlain_object m) (endsPlain_object n) hchars
    exact ⟨hinputs, (hapart.canonicalText_eq_iff hm hn).mp (congrArg String.ofList hbodies)⟩
  · rintro ⟨hinputs, hbodies⟩
    rw [Value.canonicalText, Value.canonicalText, Value.canonicalText, Value.canonicalText,
      hinputs, hbodies]

end Json

/-! ## Digests -/

theorem Text.Hex.decodeChars?_encode (bytes : List UInt8) :
    Hex.decodeChars? (bytes.flatMap Hex.encodeByte) = some bytes := by
  induction bytes with
  | nil => rfl
  | cons b rest ih =>
      have hb := b.toNat_lt
      have hbyte : UInt8.ofNat (b.toNat / 16 * 16 + b.toNat % 16) = b := by
        rw [Nat.div_add_mod', UInt8.ofNat_toNat]
      rw [List.flatMap_cons, Hex.encodeByte, List.cons_append, List.cons_append, List.nil_append,
        Hex.decodeChars?, digit?_digitChar (by omega), digit?_digitChar (by omega), ih]
      exact congrArg (fun byte => some (byte :: rest)) hbyte

theorem Text.Hex.encode_injective : Function.Injective Hex.encode := by
  intro a b heq
  have hchars : a.flatMap Hex.encodeByte = b.flatMap Hex.encodeByte :=
    String.ofList_injective heq
  have hdecoded := Hex.decodeChars?_encode a
  rw [hchars, Hex.decodeChars?_encode] at hdecoded
  exact (Option.some.inj hdecoded).symm

theorem Text.Base64Url.encode_injective : Function.Injective Base64Url.encode := by
  intro a b heq
  have hdecoded := Base64Url.decode?_encode a
  rw [heq, Base64Url.decode?_encode] at hdecoded
  exact (Option.some.inj hdecoded).symm

namespace Digest

open Crypto Rules

/-- Two different texts have the same hash. -/
def Collide (s t : String) : Prop := s ≠ t ∧ sha256 (utf8 s) = sha256 (utf8 t)

theorem eq_or_collide {s t : String} (hhash : sha256 (utf8 s) = sha256 (utf8 t)) :
    s = t ∨ Collide s t := by
  by_cases heq : s = t
  · exact Or.inl heq
  · exact Or.inr ⟨heq, hhash⟩

/-- The text of which a trace identifier is a digest: the canonical texts of input and body, one
behind the other. -/
def tracedText (input body : Value) : String := input.canonicalText ++ body.canonicalText

theorem traceId_eq (input body : Value) :
    traceId input body = Hex.encode ((sha256 (utf8 (tracedText input body))).take 8) := rfl

theorem body_of_parse {body : Value} {set : RuleSet} (hparse : RuleSet.parse body = .ok set) :
    set.body = body ∧ ∃ members, body = .object members := by
  cases body with
  | object members =>
      refine ⟨?_, members, rfl⟩
      obtain ⟨schema, -, hset⟩ := Fallible.exists_of_bind_eq_ok hparse
      obtain ⟨rules, -, hset⟩ := Fallible.exists_of_bind_eq_ok hset
      obtain ⟨denyOverrides, -, hset⟩ := Fallible.exists_of_bind_eq_ok hset
      cases hset
      rfl
  | _ => cases hparse

/-- A trace identifier is made from the first bytes of the hash of one text. If no two numbers in
two inputs and two objects as policy bodies are printed alike, then this text tells the input and
the body, and the canonical text of an input tells the input. So inputs with the same checksum or
the same context hash are the same, or their canonical texts are two texts with the same hash. Every
body from which a rule set is compiled is an object, and it is what the rule set puts into its trace
identifiers. -/
theorem canonical_texts_tell_documents {input₁ input₂ : Value} {body₁ body₂ : Members}
    (hapart : NumbersApart [input₁, input₂, .object body₁, .object body₂]) :
    (∀ input body, traceId input body =
      Hex.encode ((sha256 (utf8 (tracedText input body))).take 8)) ∧
    (tracedText input₁ (.object body₁) = tracedText input₂ (.object body₂) ↔
      input₁.sorted = input₂.sorted ∧
        (Value.object body₁).sorted = (Value.object body₂).sorted) ∧
    (input₁.canonicalText = input₂.canonicalText ↔ input₁.sorted = input₂.sorted) ∧
    (checksum input₁ = checksum input₂ →
      input₁.sorted = input₂.sorted ∨ Collide input₁.canonicalText input₂.canonicalText) ∧
    (contextHash input₁ = contextHash input₂ →
      input₁.sorted = input₂.sorted ∨ Collide input₁.canonicalText input₂.canonicalText) ∧
    ∀ body set, RuleSet.parse body = .ok set →
      set.body = body ∧ ∃ members, body = .object members := by
  have htexts := hapart.canonicalText_eq_iff (v := input₁) (w := input₂) (by simp) (by simp)
  have hdigests (hhash : sha256 (utf8 input₁.canonicalText) = sha256 (utf8 input₂.canonicalText)) :
      input₁.sorted = input₂.sorted ∨ Collide input₁.canonicalText input₂.canonicalText :=
    (eq_or_collide hhash).imp_left htexts.mp
  refine ⟨traceId_eq, ?_, htexts, ?_, ?_, fun body set => body_of_parse⟩
  · exact hapart.canonicalTexts_eq_iff (by simp) (by simp) (by simp) (by simp)
  · exact fun hchecksum => hdigests (Hex.encode_injective hchecksum)
  · exact fun hcontext => hdigests (Base64Url.encode_injective hcontext)

/-- The digit that stands between two texts belongs to the first one. -/
theorem digit_in_between_told :
    NumbersApart [.nat 1, .nat 12, .object [("n", .nat 2)], .object [("n", .nat 2)]] ∧
    tracedText (.nat 1) (.object [("n", .nat 2)]) ≠
      tracedText (.nat 12) (.object [("n", .nat 2)]) := by
  have hapart :
      NumbersApart [.nat 1, .nat 12, .object [("n", .nat 2)], .object [("n", .nat 2)]] := by
    apply numbersApart_of_integers
    simp [Value.nat, Value.numbers, Value.memberNumbers]
  refine ⟨hapart, fun htexts => ?_⟩
  obtain ⟨hinput, -⟩ := (canonical_texts_tell_documents hapart).2.1.mp htexts
  exact absurd hinput (by decide)

end Digest

end Mandate
