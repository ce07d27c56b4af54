import Mandate.Proofs.Crypto.Keys
import Mandate.Proofs.Token.ReadBack

/-! # Tokens from minting to verification

Whatever signature a signer answers with, the token that is minted has three segments, and its
claims come back from it as they were. If the signer has a key of its own, the token verifies under
the public key of that signer for as long as the claims have not expired, provided that the
signature scheme accepts its own signatures.
-/

namespace Mandate

open Json Text Crypto Token

namespace Token

/-- A signer that is made from a key document signs with the seed of its public key. -/
theorem LocalSigner.publicKey_of_ofDocument {keyId : String} {document : List UInt8}
    {s : LocalSigner} (hdocument : LocalSigner.ofDocument keyId document = .ok s) :
    s.keyId = keyId ∧ s.keys.publicKey = Ed25519.publicKey s.keys.seed := by
  unfold LocalSigner.ofDocument at hdocument
  split at hdocument
  next keys hdecode =>
    cases hdocument
    exact ⟨rfl, congrArg Pkcs8.KeyPair.publicKey (Pkcs8.eq_ofSeed_of_decode hdecode)⟩
  next => cases hdocument

/-! ## Segments -/

/-- Dots divide the token into exactly three segments, and none of them is empty. -/
def HasThreeSegments (token : String) : Prop :=
  ∃ h p s, splitOn '.' token.toList = [h, p, s] ∧ h ≠ [] ∧ p ≠ [] ∧ s ≠ []

theorem HasThreeSegments.of_split {token : String} {segments : Segments}
    (hsplit : split token = .ok segments) : HasThreeSegments token := by
  unfold split at hsplit
  split at hsplit
  next h p s hcut =>
    split at hsplit
    next => cases hsplit
    next hfull =>
      simp only [Bool.or_eq_true, List.isEmpty_iff, not_or] at hfull
      exact ⟨h, p, s, hcut, hfull.1.1, hfull.1.2, hfull.2⟩
  next => cases hsplit

variable {claims : Claims} {algorithm keyId : String} {bytes : List UInt8}

/-- The token that a signature makes is split into the segments that it was made of. -/
theorem split_signed (hbytes : bytes ≠ []) :
    split (unsigned algorithm keyId claims ++ "." ++ Base64Url.encode bytes) =
      .ok ⟨segment (header algorithm keyId), segment claims.json, Base64Url.encode bytes⟩ := by
  have hfull {members : Members} : utf8 (Value.object members).text ≠ [] := fun hnil =>
    text_ne_empty members (utf8_eq_nil_iff.mp hnil)
  exact split_encode hfull hfull hbytes

/-- Verifying the token that a signature makes checks this signature, and then when the claims
expire. -/
theorem verify_signed (hfits : claims.Fits) (hbytes : bytes ≠ []) {key : List UInt8} {now : Int}
    (haccepted : Ed25519.verify key (utf8 (unsigned algorithm keyId claims)) bytes = true) :
    verify (unsigned algorithm keyId claims ++ "." ++ Base64Url.encode bytes) key now =
      if now < claims.exp then .ok claims else .error (.invalidToken .expired) := by
  have hmessage : segment (header algorithm keyId) ++ "." ++ segment claims.json =
      unsigned algorithm keyId claims := rfl
  rw [verify, Fallible.bind_of_ok (split_signed hbytes)]
  simp only [Base64Url.decode?_encode, hmessage, haccepted]
  by_cases hexp : claims.exp ≤ now
  · rw [if_neg (Int.not_lt.mpr hexp)]
    exact (Fallible.bind_of_ok (claimsOf_segment hfits)).trans (if_pos hexp)
  · rw [if_pos (Int.not_le.mp hexp)]
    exact (Fallible.bind_of_ok (claimsOf_segment hfits)).trans (if_neg hexp)

/-! ## Minted tokens -/

/-- The token has three segments, and the claims are read from it. -/
structure Carries (token : String) (claims : Claims) : Prop where
  segments : HasThreeSegments token
  decoded : decodeClaims token = .ok claims

theorem carries_signed (hfits : claims.Fits) (hbytes : bytes ≠ []) :
    Carries (unsigned algorithm keyId claims ++ "." ++ Base64Url.encode bytes) claims where
  segments := .of_split (split_signed hbytes)
  decoded := by
    have hcomplete : complete (unsigned algorithm keyId claims) 0 (.signature bytes) =
        .ok (unsigned algorithm keyId claims ++ "." ++ Base64Url.encode bytes) := rfl
    exact decodeClaims_of_complete hfits hbytes hcomplete

/-- Claims whose numbers fit their fields come back from the token that is minted for them, whoever
signs it with whatever bytes, as long as there are any. A token that is signed with a key of one's
own verifies under the public key of this signer: it gives exactly these claims until they expire,
and an objection to that from then on. Of the signature scheme it is needed that it accepts the
signature that it has given to the two segments of the token. -/
theorem minted_claims_come_back (hfits : claims.Fits) (timeoutMs : Nat) :
    (∀ (signer : Signer) (bytes : List UInt8),
      signer.sign (utf8 (unsigned signer.algorithm signer.keyId claims)) = .signature bytes →
      bytes ≠ [] →
      ∃ token, mint signer claims timeoutMs = .ok token ∧ Carries token claims) ∧
    ∀ keyId document s, LocalSigner.ofDocument keyId document = .ok s →
      Ed25519.Accepts s.keys.seed (utf8 (unsigned LocalSigner.algorithm keyId claims)) →
      ∃ token, mint s.signer claims timeoutMs = .ok token ∧ Carries token claims ∧
        ∀ now, verify token s.keys.publicKey now =
          if now < claims.exp then .ok claims else .error (.invalidToken .expired) := by
  constructor
  · intro signer bytes hsigned hbytes
    have hminted : mint signer claims timeoutMs =
        .ok (unsigned signer.algorithm signer.keyId claims ++ "." ++ Base64Url.encode bytes) := by
      rw [mint, hsigned]
      rfl
    exact ⟨_, hminted, carries_signed hfits hbytes⟩
  · intro keyId document s hdocument haccepts
    obtain ⟨rfl, hkey⟩ := LocalSigner.publicKey_of_ofDocument hdocument
    have hbytes : Ed25519.sign s.keys.seed
        (utf8 (unsigned LocalSigner.algorithm s.keyId claims)) ≠ [] := by
      rw [← List.length_pos_iff, Ed25519.length_sign]
      decide
    refine ⟨_, rfl, carries_signed hfits hbytes, fun now => verify_signed hfits hbytes ?_⟩
    rw [hkey]
    exact haccepts

/-- The bytes that are signed, by the characters of the two documents: without texts in between,
they can be computed. -/
theorem utf8_unsigned (algorithm keyId : String) (claims : Claims) :
    utf8 (unsigned algorithm keyId claims) =
      (Base64Url.encodeChars ((header algorithm keyId).chars.flatMap String.utf8EncodeChar) ++
        '.' :: Base64Url.encodeChars (claims.json.chars.flatMap String.utf8EncodeChar)).flatMap
          String.utf8EncodeChar := by
  simp [utf8_eq_flatMap, unsigned, segment, Base64Url.encode, Value.text]

/-- Claims with a letter beyond ASCII and a line break in their reason. -/
def accentedClaims : Claims where
  orgId := ""
  agentId := "a"
  policyId := "p"
  policyVersion := 3
  allow := true
  reason := "é\n"
  contextHash := ""
  traceId := ""
  exp := 100
  jti := ""

/-- A seed of thirty-two equal bytes. -/
def plainSeed : List UInt8 := List.replicate 32 7

theorem accented_claims_come_back :
    accentedClaims.Fits ∧
    (∃ token, mint ⟨"none", "\"", fun _ => .signature [0]⟩ accentedClaims 5 = .ok token ∧
      Carries token accentedClaims) ∧
    ∃ s, LocalSigner.ofDocument "k" (Pkcs8.encode (.ofSeed plainSeed)) = .ok s ∧
      ∃ token, mint s.signer accentedClaims 5 = .ok token ∧ Carries token accentedClaims ∧
        ∀ now, verify token s.keys.publicKey now =
          if now < 100 then .ok accentedClaims else .error (.invalidToken .expired) := by
  have hfits : accentedClaims.Fits := ⟨by decide, by decide, by decide⟩
  have hdocument : LocalSigner.ofDocument "k" (Pkcs8.encode (.ofSeed plainSeed)) =
      .ok ⟨"k", .ofSeed plainSeed⟩ := by
    rw [LocalSigner.ofDocument, Pkcs8.decode_encode (by decide) rfl]
  have haccepts : Ed25519.Accepts plainSeed
      (utf8 (unsigned LocalSigner.algorithm "k" accentedClaims)) := by
    rw [Ed25519.Accepts, utf8_unsigned]
    decide +kernel
  obtain ⟨hanyone, hlocal⟩ := minted_claims_come_back hfits 5
  exact ⟨hfits, hanyone ⟨"none", "\"", fun _ => .signature [0]⟩ [0] rfl (List.cons_ne_nil _ _),
    _, hdocument, hlocal "k" _ _ hdocument haccepts⟩

end Token

end Mandate
