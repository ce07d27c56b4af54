import Mandate.Crypto.Pkcs8
import Mandate.Proofs.Fallible

/-! # Keys

A key document is read as the pair that it was written for, and whatever document is read, its
public key is the one of its seed. So whoever signs with a seed from a document has the public key
that a verifier needs.
-/

namespace Mandate.Crypto

/-! ## Signatures -/

namespace Ed25519

/-- A signature of the message under a seed is accepted under the public key of that seed. -/
def Accepts (seed message : List UInt8) : Prop :=
  verify (publicKey seed) message (sign seed message) = true

theorem length_bytesOf (n count : Nat) : (bytesOf n count).length = count := by
  have hlength : (Sha2.bytesOf n count).length = count := by
    induction count with
    | zero => rfl
    | succ count ih => rw [Sha2.bytesOf, List.length_cons, ih]
  rw [bytesOf, List.length_reverse, hlength]

theorem length_publicKey (seed : List UInt8) : (publicKey seed).length = 32 := by
  simp [publicKey, Point.encode, length_bytesOf]

theorem length_sign (seed message : List UInt8) : (sign seed message).length = 64 := by
  simp [sign, Point.encode, length_bytesOf]

end Ed25519

namespace Pkcs8

/-! ## Documents that are written -/

theorem readLength?_cons {n : Nat} (hshort : n < 128) (rest : List UInt8) :
    readLength? (UInt8.ofNat n :: rest) = some (n, rest) := by
  have hbyte : (UInt8.ofNat n).toNat = n := Nat.mod_eq_of_lt (Nat.lt_trans hshort (by decide))
  have hlow : UInt8.ofNat n < 0x80 := UInt8.lt_iff_toNat_lt.mpr (hbyte.symm ▸ hshort)
  unfold readLength?
  simp only [if_pos hlow, hbyte]

theorem readElement?_element (tag : UInt8) {content : List UInt8} (hshort : content.length < 128)
    (rest : List UInt8) :
    readElement? tag (element tag content ++ rest) = some (content, rest) := by
  simp [element, readElement?, readLength?_cons hshort]

theorem wholeElement?_element (tag : UInt8) {content : List UInt8}
    (hshort : content.length < 128) :
    wholeElement? tag (element tag content) = some content := by
  have hread := readElement?_element tag hshort []
  rw [List.append_nil] at hread
  rw [wholeElement?, hread]

theorem length_element (tag : UInt8) (content : List UInt8) :
    (element tag content).length = content.length + 2 := rfl

/-- The document of a key pair is read as this pair. -/
theorem decode_encode {pair : KeyPair} (hseed : pair.seed.length = 32)
    (hpair : pair = .ofSeed pair.seed) : decode (encode pair) = .ok pair := by
  have hkey : pair.publicKey.length = 32 := by
    rw [hpair]
    exact Ed25519.length_publicKey pair.seed
  have hwrapped : (element 0x04 pair.seed).length < 128 := by
    rw [length_element, hseed]
    decide
  have hlast : (0 :: pair.publicKey).length < 128 := by
    rw [List.length_cons, hkey]
    decide
  have hbody : (element 0x02 version ++ (element 0x30 algorithm ++
      (element 0x04 (element 0x04 pair.seed) ++
        element 0x81 (0 :: pair.publicKey)))).length < 128 := by
    simp only [List.length_append, length_element, List.length_cons, hseed, hkey]
    decide
  have hversion : version.length < 128 := by decide
  have hname : algorithm.length < 128 := by decide
  have hshort : pair.seed.length < 128 := by omega
  have hskip : skipAttributes? (element 0x81 (0 :: pair.publicKey)) =
      some (element 0x81 (0 :: pair.publicKey)) := if_neg (by simp [element])
  have hpublic : publicKey? (element 0x81 (0 :: pair.publicKey)) = some pair.publicKey := by
    rw [publicKey?, if_neg (by simp [element]), wholeElement?_element 0x81 hlast]
    rfl
  have hlegal : pairOf pair.seed pair.publicKey = .ok pair := by
    rw [pairOf, if_neg (not_not_intro hseed), ← hpair]
    exact if_pos rfl
  have hread {tag : UInt8} {content : List UInt8} (hlength : content.length < 128)
      (rest : List UInt8) :
      wellFormed (readElement? tag (element tag content ++ rest)) = .ok (content, rest) := by
    rw [readElement?_element tag hlength, wellFormed]
  unfold decode encode
  simp only [List.append_assoc]
  -- element by element, in the order in which they were written
  refine (Fallible.bind_of_ok (congrArg wellFormed (wholeElement?_element 0x30 hbody))).trans ?_
  refine (Fallible.bind_of_ok (hread hversion _)).trans ?_
  refine (Fallible.bind_of_ok (hread hname _)).trans ?_
  refine (Fallible.bind_of_ok (hread hwrapped _)).trans ?_
  refine (Fallible.bind_of_ok (congrArg wellFormed hskip)).trans ?_
  refine (Fallible.bind_of_ok (congrArg wellFormed hpublic)).trans ?_
  exact (Fallible.bind_of_ok (congrArg wellFormed (wholeElement?_element 0x04 hshort))).trans hlegal

/-! ## Documents that are read -/

theorem eq_ofSeed_of_pairOf {seed key : List UInt8} {pair : KeyPair}
    (hpair : pairOf seed key = .ok pair) : pair = .ofSeed pair.seed := by
  unfold pairOf at hpair
  split at hpair
  · cases hpair
  · dsimp only at hpair
    split at hpair
    · cases hpair
      rfl
    · split at hpair <;> cases hpair

/-- The public key of a key document is the one that belongs to its seed. -/
theorem eq_ofSeed_of_decode {document : List UInt8} {pair : KeyPair}
    (hdecode : decode document = .ok pair) : pair = .ofSeed pair.seed := by
  obtain ⟨body, -, hdecode⟩ := Fallible.exists_of_bind_eq_ok hdecode
  obtain ⟨⟨number, rest⟩, -, hdecode⟩ := Fallible.exists_of_bind_eq_ok hdecode
  obtain ⟨⟨name, rest⟩, -, hdecode⟩ := Fallible.exists_of_bind_eq_ok (Fallible.ok_of_unless hdecode)
  have hdecode := Fallible.ok_of_unless (Fallible.ok_of_unless hdecode)
  obtain ⟨⟨wrapped, rest⟩, -, hdecode⟩ := Fallible.exists_of_bind_eq_ok hdecode
  obtain ⟨rest, -, hdecode⟩ := Fallible.exists_of_bind_eq_ok hdecode
  obtain ⟨key, -, hdecode⟩ := Fallible.exists_of_bind_eq_ok (Fallible.ok_of_unless hdecode)
  obtain ⟨seed, -, hpair⟩ := Fallible.exists_of_bind_eq_ok hdecode
  exact eq_ofSeed_of_pairOf hpair

end Pkcs8

end Mandate.Crypto
