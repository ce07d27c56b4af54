import Mandate.Proofs.Engine.Gates
import Mathlib.Data.List.Basic

/-! # Which assignments can be selected

Of several active assignments one is selected by the bucket of a key. There are a hundred buckets,
and each of them is the bucket of some digest, so up to a hundred assignments share the requests
among them and none is left out. Of a longer list only the first hundred are ever selected.
-/

namespace Mandate

open Crypto Text

/-! ## Digests -/

namespace Crypto

theorem Sha2.length_bytesOf (n count : Nat) : (Sha2.bytesOf n count).length = count := by
  induction count with
  | zero => rfl
  | succ count ih => rw [Sha2.bytesOf, List.length_cons, ih]

theorem Sha2.length_digest {W : Type} (s : Sha2 W) (message : List UInt8) :
    (s.digest message).length = 8 * s.wordBytes := by
  simp only [Sha2.digest, List.flatMap_cons, List.flatMap_nil, List.length_append,
    Sha2.length_bytesOf, List.length_nil]
  omega

/-- A digest begins with sixteen bits. -/
theorem exists_take_sha256 (message : List UInt8) :
    ∃ high low, (sha256 message).take 2 = [high, low] := by
  have hlength : ((sha256 message).take 2).length = 2 := by
    rw [List.length_take, sha256, Sha2.length_digest]
    rfl
  exact List.length_eq_two.mp hlength

end Crypto

/-! ## Buckets and positions -/

namespace Routing

theorem bucketOfDigest_lt (digest : List UInt8) : bucketOfDigest digest < bucketCount :=
  Nat.mod_lt _ (by decide)

/-- Nothing of a digest counts but its first sixteen bits. -/
theorem bucketOfDigest_take (digest : List UInt8) :
    bucketOfDigest (digest.take 2) = bucketOfDigest digest := by
  rw [bucketOfDigest, List.take_take]
  rfl

theorem bucketOfDigest_pair (high low : UInt8) :
    bucketOfDigest [high, low] = (high.toNat * 256 + low.toNat) % bucketCount := by
  rw [bucketOfDigest, Sha2.ofBytes]
  simp

/-- Every bucket is that of some digest. -/
theorem exists_bucketOfDigest {b : Nat} (hb : b < bucketCount) :
    ∃ high low, bucketOfDigest [high, low] = b := by
  have hbyte : b < UInt8.size := Nat.lt_trans hb (by decide)
  refine ⟨0, UInt8.ofNat b, ?_⟩
  rw [bucketOfDigest_pair, UInt8.toNat_ofNat_of_lt' hbyte, UInt8.toNat_zero, Nat.zero_mul,
    Nat.zero_add, Nat.mod_eq_of_lt hb]

variable {length : Nat}

theorem indexOfBucket_lt (hlength : 0 < length) (b : Nat) : indexOfBucket b length < length := by
  rw [indexOfBucket, if_neg (by omega)]
  exact Nat.mod_lt _ hlength

theorem indexOfBucket_le (b length : Nat) : indexOfBucket b length ≤ b := by
  unfold indexOfBucket
  split
  · exact Nat.zero_le b
  · exact Nat.mod_le b length

/-- No digest leads behind the first hundred positions. -/
theorem indexOfBucket_lt_bucketCount (digest : List UInt8) (length : Nat) :
    indexOfBucket (bucketOfDigest digest) length < bucketCount :=
  Nat.lt_of_le_of_lt (indexOfBucket_le _ length) (bucketOfDigest_lt digest)

/-- A position is chosen by some digest exactly if it is among the first hundred. -/
theorem exists_digest_iff {i : Nat} (hi : i < length) :
    (∃ high low, indexOfBucket (bucketOfDigest [high, low]) length = i) ↔ i < bucketCount := by
  constructor
  · rintro ⟨high, low, rfl⟩
    exact indexOfBucket_lt_bucketCount _ length
  · intro hbucket
    -- the bucket with the number of the position is left as it is by the second division
    obtain ⟨high, low, heq⟩ := exists_bucketOfDigest hbucket
    refine ⟨high, low, ?_⟩
    rw [heq, indexOfBucket, if_neg (by omega), Nat.mod_eq_of_lt hi]

/-- The position that a key chooses is the one that the first sixteen bits of its digest choose. -/
theorem selectIndex_eq (key : String) (length : Nat) : ∃ high low,
    (sha256 (utf8 key)).take 2 = [high, low] ∧
      selectIndex key length = indexOfBucket (bucketOfDigest [high, low]) length := by
  obtain ⟨high, low, htake⟩ := exists_take_sha256 (utf8 key)
  refine ⟨high, low, htake, ?_⟩
  rw [← htake, bucketOfDigest_take]
  rfl

/-- Of a hundred and one positions the last is chosen by no digest and by no key. -/
theorem last_of_hundred_and_one_never_chosen :
    100 < 101 ∧ (¬ ∃ high low, indexOfBucket (bucketOfDigest [high, low]) 101 = 100) ∧
      ∀ key, selectIndex key 101 ≠ 100 := by
  have hnone : ¬ ∃ high low, indexOfBucket (bucketOfDigest [high, low]) 101 = 100 := by
    rw [exists_digest_iff (by decide)]
    decide
  refine ⟨by decide, hnone, fun key hkey => hnone ?_⟩
  obtain ⟨high, low, -, hselect⟩ := selectIndex_eq key 101
  exact ⟨high, low, hselect.symm.trans hkey⟩

end Routing

/-! ## The selection of an assignment -/

namespace Evaluation

open Routing

/-- Of one active assignment or more, one is selected for every request, at the position that the
first sixteen bits of the digest of its key choose. A position in the list can be chosen by a digest
exactly if it is among the first hundred. So none of up to a hundred assignments is left out, and of
a longer list whatever comes behind the first hundred is. -/
theorem selectable_iff_among_first_hundred {assignments : List ActiveAssignment}
    (hsome : 0 < assignments.length) :
    (∀ key, selectIndex key assignments.length < assignments.length ∧
      ∃ high low, (sha256 (utf8 key)).take 2 = [high, low] ∧
        selectIndex key assignments.length =
          indexOfBucket (bucketOfDigest [high, low]) assignments.length) ∧
    (∀ i < assignments.length,
      (∃ high low, indexOfBucket (bucketOfDigest [high, low]) assignments.length = i) ↔ i < 100) ∧
    ∀ (c : Collaborators) (request : Request) (start : Progress),
      c.assignments request.orgId = .ok assignments →
      ∃ i, ∃ hi : i < assignments.length,
        i = selectIndex (selectionKey request) assignments.length ∧ i < 100 ∧
          Passes (selectAssignment c request) start assignments[i] start := by
  have hlt : ∀ key, selectIndex key assignments.length < assignments.length := fun key =>
    indexOfBucket_lt hsome _
  refine ⟨fun key => ⟨hlt key, selectIndex_eq key _⟩, fun i hi => exists_digest_iff hi,
    fun c request start hassigned => ?_⟩
  have hchosen := List.getElem?_eq_getElem (hlt (selectionKey request))
  exact ⟨_, hlt _, rfl, indexOfBucket_lt_bucketCount _ _,
    passes_selectAssignment_iff.mpr ⟨⟨assignments, hassigned, hchosen⟩, rfl⟩⟩

/-- The active assignments of a hundred and one policies. -/
def crowd : List ActiveAssignment :=
  (List.range 101).map fun n => { policy := { (default : Policy) with id := ⟨n⟩ }, version := default }

/-- Of a hundred and one assignments the hundredth can be selected, and the last one cannot. -/
theorem hundredth_selectable :
    0 < crowd.length ∧
      (∃ high low, indexOfBucket (bucketOfDigest [high, low]) crowd.length = 99) ∧
      ¬ ∃ high low, indexOfBucket (bucketOfDigest [high, low]) crowd.length = 100 := by
  have hlength : crowd.length = 101 := rfl
  have hsome : 0 < crowd.length := by decide
  obtain ⟨-, hpositions, -⟩ := selectable_iff_among_first_hundred hsome
  exact ⟨hsome, (hpositions 99 (by omega)).mpr (by decide),
    fun hlast => absurd ((hpositions 100 (by omega)).mp hlast) (by decide)⟩

end Evaluation

end Mandate
