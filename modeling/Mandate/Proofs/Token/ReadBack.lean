import Mandate.Proofs.Json.Codecs
import Mandate.Proofs.Text.Base64Url
import Mandate.Proofs.Text.Cuts
import Mandate.Token.Compact

/-! # Tokens are read back

A token with a signature in it is cut where its segments were joined, and its claims are read as
they were issued, whoever signed them. The numbers among the claims have to fit their fields.
-/

namespace Mandate

open Mandate.Json Mandate.Text

/-! ## Cutting a token -/

namespace Token

/-- Three texts in base64url, none of them empty, are the segments of the token that joins them. -/
theorem split_encode {h p s : List UInt8} (hh : h ≠ []) (hp : p ≠ []) (hs : s ≠ []) :
    split (Base64Url.encode h ++ "." ++ Base64Url.encode p ++ "." ++ Base64Url.encode s) =
      .ok ⟨Base64Url.encode h, Base64Url.encode p, Base64Url.encode s⟩ := by
  have hjoined : (Base64Url.encode h ++ "." ++ Base64Url.encode p ++ "." ++
      Base64Url.encode s).toList = Base64Url.encodeChars h ++ '.' :: (Base64Url.encodeChars p ++
        '.' :: Base64Url.encodeChars s) := by
    simp [Base64Url.encode]
  have hcut : splitOn '.' (Base64Url.encodeChars h ++ '.' :: (Base64Url.encodeChars p ++
      '.' :: Base64Url.encodeChars s)) =
        [Base64Url.encodeChars h, Base64Url.encodeChars p, Base64Url.encodeChars s] := by
    rw [splitOn_append (Base64Url.dot_notMem_encodeChars h),
      splitOn_append (Base64Url.dot_notMem_encodeChars p),
      splitOn_of_notMem (Base64Url.dot_notMem_encodeChars s)]
  have hfull : ∀ {bytes : List UInt8}, bytes ≠ [] →
      (Base64Url.encodeChars bytes).isEmpty = false := by
    intro bytes hbytes
    rw [List.isEmpty_eq_false_iff]
    exact fun hnil => hbytes (Base64Url.encodeChars_eq_nil_iff.mp hnil)
  rw [split, hjoined, hcut]
  simp [hfull hh, hfull hp, hfull hs, Base64Url.encode]

/-! ## Reading claims -/

/-- The numbers among the claims fit their fields. -/
structure Claims.Fits (claims : Claims) : Prop where
  version : claims.policyVersion ≤ 0xffffffff
  lowest : lowestInt ≤ claims.exp
  highest : claims.exp ≤ highestInt

theorem Claims.Fits.reads {claims : Claims} (hfits : claims.Fits) :
    Claims.decode.Reads claims.json claims :=
  .record <|
    .bind (.required (.string claims.orgId) (by simp)) <|
    .bind (.required (.string claims.agentId) (by simp)) <|
    .bind (.required (.string claims.policyId) (by simp)) <|
    .bind (.required (.unsigned (Nat.lt_succ_of_le hfits.version)) (by simp)) <|
    .bind (.required (.bool claims.allow) (by simp)) <|
    .bind (.required (.string claims.reason) (by simp)) <|
    .bind (.required (.string claims.contextHash) (by simp)) <|
    .bind (.required (.string claims.traceId) (by simp)) <|
    .bind (.required (.signed64 hfits.lowest hfits.highest) (by simp)) <|
    .bind (.required (.string claims.jti) (by simp)) .pure

/-- The members of the document of claims, as they are read. -/
def Claims.trees (claims : Claims) : List (String × Tree) :=
  [("org_id", .string claims.orgId), ("agent_id", .string claims.agentId),
    ("policy_id", .string claims.policyId),
    ("policy_version", .number (.int claims.policyVersion)), ("allow", .bool claims.allow),
    ("reason", .string claims.reason), ("context_hash", .string claims.contextHash),
    ("trace_id", .string claims.traceId), ("exp", .number (.int claims.exp)),
    ("jti", .string claims.jti)]

theorem Claims.tree_json (claims : Claims) : claims.json.tree = .object claims.trees := rfl

/-- Claims are read from the members of their document. -/
theorem Claims.decode_trees {claims : Claims} (hfits : claims.Fits) :
    Claims.decode (.object claims.trees) = some claims := by
  rw [← Claims.tree_json]
  exact hfits.reads Value.tree spelling_written

theorem Claims.Fits.legible {claims : Claims} (hfits : claims.Fits) : claims.json.Legible 1 := by
  have hversion : (Value.nat claims.policyVersion).Legible 0 :=
    Value.legible_nat (show 32 ≤ 64 by decide) (Nat.lt_succ_of_le hfits.version)
  have hexp : (Value.number (.int claims.exp)).Legible 0 :=
    Value.legible_int hfits.lowest (Int.le_trans hfits.highest (by decide))
  simp [Claims.json, hversion, hexp]

theorem Claims.ofText?_text {claims : Claims} (hfits : claims.Fits) :
    Tree.ofText? claims.json.text = some (.object claims.trees) := by
  obtain ⟨hnesting, hnumbers⟩ := hfits.legible
  rw [← Claims.tree_json]
  exact Json.ofText?_text (Nat.le_trans hnesting (by decide)) hnumbers

theorem claimsOf_segment {claims : Claims} (hfits : claims.Fits) :
    claimsOf (segment claims.json) = .ok claims := by
  rw [claimsOf, segment, Base64Url.decode?_encode]
  simp only [ofUtf8?_utf8, Option.bind_some, Claims.ofText?_text hfits,
    Claims.decode_trees hfits]

/-! ## Reading a token -/

theorem text_ne_empty (members : Members) : (Value.object members).text ≠ "" := by
  intro hempty
  have hchars : (Value.object members).chars = [] := by
    have htext := congrArg String.toList hempty
    rwa [Value.text, String.toList_ofList] at htext
  simp [Value.chars] at hchars

/-- Whoever has put a signature to claims, they are read from the token as they were issued. -/
theorem decodeClaims_of_complete {algorithm keyId token : String} {claims : Claims}
    {timeoutMs : Nat} {bytes : List UInt8} (hfits : claims.Fits) (hbytes : bytes ≠ [])
    (hcomplete : complete (unsigned algorithm keyId claims) timeoutMs (.signature bytes) =
      .ok token) :
    decodeClaims token = .ok claims := by
  cases hcomplete
  have hheader : utf8 (header algorithm keyId).text ≠ [] := fun hnil =>
    text_ne_empty _ (utf8_eq_nil_iff.mp hnil)
  have hpayload : utf8 claims.json.text ≠ [] := fun hnil =>
    text_ne_empty _ (utf8_eq_nil_iff.mp hnil)
  rw [decodeClaims, unsigned, segment, segment, split_encode hheader hpayload hbytes]
  exact claimsOf_segment hfits

end Token

end Mandate
