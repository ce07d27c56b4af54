/-!
# SHA-2

The two hash functions of the family that are used here, SHA-256 and SHA-512. They are one
construction over words of different width, so the rounds are written once, for a word type with
the few operations they need.
-/

namespace Mandate.Crypto

/-- What distinguishes the members of the family: the word, its rotations and the constants. -/
structure Sha2 (W : Type) where
  /-- Bytes in a word. -/
  wordBytes : Nat
  ofNat : Nat → W
  toNat : W → Nat
  add : W → W → W
  and : W → W → W
  xor : W → W → W
  rotate : W → Nat → W
  shift : W → Nat → W
  /-- The two rotations and the shift of the small schedule functions. -/
  small0 : Nat × Nat × Nat
  small1 : Nat × Nat × Nat
  /-- The three rotations of the large round functions. -/
  large0 : Nat × Nat × Nat
  large1 : Nat × Nat × Nat
  initial : List W
  constants : List W

/-- The eight working words. -/
structure Working (W : Type) where
  a : W
  b : W
  c : W
  d : W
  e : W
  f : W
  g : W
  h : W

namespace Sha2

/-- A number in big-endian bytes. -/
def bytesOf (n : Nat) : (count : Nat) → List UInt8
  | 0 => []
  | count + 1 => UInt8.ofNat (n >>> (8 * count)) :: bytesOf n count

/-- The number that big-endian bytes denote. -/
def ofBytes (bytes : List UInt8) : Nat :=
  bytes.foldl (fun acc b => acc * 256 + b.toNat) 0

/-- Cut a list into the given number of pieces of one size. -/
def pieces {α : Type} (size : Nat) : (count : Nat) → List α → List (List α)
  | 0, _ => []
  | count + 1, l => l.take size :: pieces size count (l.drop size)

variable {W : Type} (s : Sha2 W)

/-- Bytes in a block of sixteen words. -/
def blockBytes : Nat := 16 * s.wordBytes

/-- A message with a final one bit, zeros up to a full block, and its length in bits. -/
def padded (message : List UInt8) : List UInt8 :=
  let used := message.length + 1 + 2 * s.wordBytes
  let zeros := (s.blockBytes - used % s.blockBytes) % s.blockBytes
  message ++ 0x80 :: List.replicate zeros 0 ++ bytesOf (8 * message.length) (2 * s.wordBytes)

/-- Exclusive or of two rotations and a shift. -/
def smallSigma (r : Nat × Nat × Nat) (x : W) : W :=
  s.xor (s.xor (s.rotate x r.1) (s.rotate x r.2.1)) (s.shift x r.2.2)

/-- Exclusive or of three rotations. -/
def largeSigma (r : Nat × Nat × Nat) (x : W) : W :=
  s.xor (s.xor (s.rotate x r.1) (s.rotate x r.2.1)) (s.rotate x r.2.2)

/-- Add the given number of words to a schedule, each from four earlier ones. -/
def extend : (count : Nat) → Array W → Array W
  | 0, w => w
  | count + 1, w =>
      let back (k : Nat) : W := (w[w.size - k]?).getD (s.ofNat 0)
      let next := s.add (s.add (s.smallSigma s.small1 (back 2)) (back 7))
        (s.add (s.smallSigma s.small0 (back 15)) (back 16))
      extend count (w.push next)

/-- One round. -/
def round (r : Working W) (word : W × W) : Working W :=
  let ones := s.ofNat ((1 <<< (8 * s.wordBytes)) - 1)
  let choice := s.xor (s.and r.e r.f) (s.and (s.xor r.e ones) r.g)
  let majority := s.xor (s.xor (s.and r.a r.b) (s.and r.a r.c)) (s.and r.b r.c)
  let t1 := s.add (s.add (s.add r.h (s.largeSigma s.large1 r.e)) (s.add choice word.1)) word.2
  let t2 := s.add (s.largeSigma s.large0 r.a) majority
  ⟨s.add t1 t2, r.a, r.b, r.c, s.add r.d t1, r.e, r.f, r.g⟩

/-- Mix one block into the chaining value. -/
def compress (state : Working W) (block : List UInt8) : Working W :=
  let start := (pieces s.wordBytes 16 block).map fun b => s.ofNat (ofBytes b)
  let schedule := s.extend (s.constants.length - 16) start.toArray
  let r := (s.constants.zip schedule.toList).foldl s.round state
  ⟨s.add state.a r.a, s.add state.b r.b, s.add state.c r.c, s.add state.d r.d,
    s.add state.e r.e, s.add state.f r.f, s.add state.g r.g, s.add state.h r.h⟩

/-- The chaining value before the first block. -/
def start : Working W :=
  let word (i : Nat) : W := (s.initial[i]?).getD (s.ofNat 0)
  ⟨word 0, word 1, word 2, word 3, word 4, word 5, word 6, word 7⟩

/-- The digest of a message. -/
def digest (message : List UInt8) : List UInt8 :=
  let text := s.padded message
  let blocks := pieces s.blockBytes (text.length / s.blockBytes) text
  let r := blocks.foldl s.compress s.start
  [r.a, r.b, r.c, r.d, r.e, r.f, r.g, r.h].flatMap fun w => bytesOf (s.toNat w) s.wordBytes

end Sha2

/-- The variant with 32-bit words. -/
def sha2With32 : Sha2 UInt32 where
  wordBytes := 4
  ofNat := UInt32.ofNat
  toNat := UInt32.toNat
  add := (· + ·)
  and := (· &&& ·)
  xor := (· ^^^ ·)
  rotate x n := x >>> UInt32.ofNat n ||| x <<< UInt32.ofNat (32 - n)
  shift x n := x >>> UInt32.ofNat n
  small0 := (7, 18, 3)
  small1 := (17, 19, 10)
  large0 := (2, 13, 22)
  large1 := (6, 11, 25)
  initial := [
    0x6a09e667, 0xbb67ae85, 0x3c6ef372, 0xa54ff53a,
    0x510e527f, 0x9b05688c, 0x1f83d9ab, 0x5be0cd19]
  constants := [
    0x428a2f98, 0x71374491, 0xb5c0fbcf, 0xe9b5dba5, 0x3956c25b, 0x59f111f1,
    0x923f82a4, 0xab1c5ed5, 0xd807aa98, 0x12835b01, 0x243185be, 0x550c7dc3,
    0x72be5d74, 0x80deb1fe, 0x9bdc06a7, 0xc19bf174, 0xe49b69c1, 0xefbe4786,
    0x0fc19dc6, 0x240ca1cc, 0x2de92c6f, 0x4a7484aa, 0x5cb0a9dc, 0x76f988da,
    0x983e5152, 0xa831c66d, 0xb00327c8, 0xbf597fc7, 0xc6e00bf3, 0xd5a79147,
    0x06ca6351, 0x14292967, 0x27b70a85, 0x2e1b2138, 0x4d2c6dfc, 0x53380d13,
    0x650a7354, 0x766a0abb, 0x81c2c92e, 0x92722c85, 0xa2bfe8a1, 0xa81a664b,
    0xc24b8b70, 0xc76c51a3, 0xd192e819, 0xd6990624, 0xf40e3585, 0x106aa070,
    0x19a4c116, 0x1e376c08, 0x2748774c, 0x34b0bcb5, 0x391c0cb3, 0x4ed8aa4a,
    0x5b9cca4f, 0x682e6ff3, 0x748f82ee, 0x78a5636f, 0x84c87814, 0x8cc70208,
    0x90befffa, 0xa4506ceb, 0xbef9a3f7, 0xc67178f2]

/-- The variant with 64-bit words. -/
def sha2With64 : Sha2 UInt64 where
  wordBytes := 8
  ofNat := UInt64.ofNat
  toNat := UInt64.toNat
  add := (· + ·)
  and := (· &&& ·)
  xor := (· ^^^ ·)
  rotate x n := x >>> UInt64.ofNat n ||| x <<< UInt64.ofNat (64 - n)
  shift x n := x >>> UInt64.ofNat n
  small0 := (1, 8, 7)
  small1 := (19, 61, 6)
  large0 := (28, 34, 39)
  large1 := (14, 18, 41)
  initial := [
    0x6a09e667f3bcc908, 0xbb67ae8584caa73b, 0x3c6ef372fe94f82b, 0xa54ff53a5f1d36f1,
    0x510e527fade682d1, 0x9b05688c2b3e6c1f, 0x1f83d9abfb41bd6b, 0x5be0cd19137e2179]
  constants := [
    0x428a2f98d728ae22, 0x7137449123ef65cd, 0xb5c0fbcfec4d3b2f, 0xe9b5dba58189dbbc,
    0x3956c25bf348b538, 0x59f111f1b605d019, 0x923f82a4af194f9b, 0xab1c5ed5da6d8118,
    0xd807aa98a3030242, 0x12835b0145706fbe, 0x243185be4ee4b28c, 0x550c7dc3d5ffb4e2,
    0x72be5d74f27b896f, 0x80deb1fe3b1696b1, 0x9bdc06a725c71235, 0xc19bf174cf692694,
    0xe49b69c19ef14ad2, 0xefbe4786384f25e3, 0x0fc19dc68b8cd5b5, 0x240ca1cc77ac9c65,
    0x2de92c6f592b0275, 0x4a7484aa6ea6e483, 0x5cb0a9dcbd41fbd4, 0x76f988da831153b5,
    0x983e5152ee66dfab, 0xa831c66d2db43210, 0xb00327c898fb213f, 0xbf597fc7beef0ee4,
    0xc6e00bf33da88fc2, 0xd5a79147930aa725, 0x06ca6351e003826f, 0x142929670a0e6e70,
    0x27b70a8546d22ffc, 0x2e1b21385c26c926, 0x4d2c6dfc5ac42aed, 0x53380d139d95b3df,
    0x650a73548baf63de, 0x766a0abb3c77b2a8, 0x81c2c92e47edaee6, 0x92722c851482353b,
    0xa2bfe8a14cf10364, 0xa81a664bbc423001, 0xc24b8b70d0f89791, 0xc76c51a30654be30,
    0xd192e819d6ef5218, 0xd69906245565a910, 0xf40e35855771202a, 0x106aa07032bbd1b8,
    0x19a4c116b8d2d0c8, 0x1e376c085141ab53, 0x2748774cdf8eeb99, 0x34b0bcb5e19b48a8,
    0x391c0cb3c5c95a63, 0x4ed8aa4ae3418acb, 0x5b9cca4f7763e373, 0x682e6ff3d6b2b8a3,
    0x748f82ee5defb2fc, 0x78a5636f43172f60, 0x84c87814a1f0ab72, 0x8cc702081a6439ec,
    0x90befffa23631e28, 0xa4506cebde82bde9, 0xbef9a3f7b2c67915, 0xc67178f2e372532b,
    0xca273eceea26619c, 0xd186b8c721c0c207, 0xeada7dd6cde0eb1e, 0xf57d4f7fee6ed178,
    0x06f067aa72176fba, 0x0a637dc5a2c898a6, 0x113f9804bef90dae, 0x1b710b35131c471b,
    0x28db77f523047d84, 0x32caab7b40c72493, 0x3c9ebe0a15c9bebc, 0x431d67c49c100d4c,
    0x4cc5d4becb3e42b6, 0x597f299cfc657e2a, 0x5fcb6fab3ad6faec, 0x6c44198c4a475817]

/-- SHA-256: 32 bytes. -/
def sha256 (message : List UInt8) : List UInt8 :=
  sha2With32.digest message

/-- SHA-512: 64 bytes. -/
def sha512 (message : List UInt8) : List UInt8 :=
  sha2With64.digest message

end Mandate.Crypto
