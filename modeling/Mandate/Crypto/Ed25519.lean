import Mandate.Crypto.Sha2

/-!
# Ed25519 signatures

The signature scheme of RFC 8032 over the twisted Edwards curve `-x² + y² = 1 + d x² y²` modulo
`2 ^ 255 - 19`. Field elements and scalars are natural numbers, and a point is kept in extended
coordinates, so that one formula adds any two points.

A signature is accepted if its scalar is below the group order and the point that it claims is
byte for byte the one that the equation gives. A public key may spell its point with a coordinate
that is not reduced.
-/

namespace Mandate.Crypto.Ed25519

/-- The modulus of the field. -/
def prime : Nat := (1 <<< 255) - 19

/-- The order of the base point. -/
def order : Nat := (1 <<< 252) + 27742317777372353535851937790883648493

/-- The coefficient of the curve, `-121665 / 121666`. -/
def coefficient : Nat :=
  37095705934669439343138083508754565189542113879843219016388785533085940283555

/-- A square root of minus one. -/
def rootOfMinusOne : Nat :=
  19681161376707505956807079304988542015446066515923890162744021073123829784752

/-- `base ^ exponent` in the field. -/
def power (base exponent : Nat) : Nat :=
  if _h : exponent = 0 then 1
  else
    let root := power base (exponent / 2)
    let square := root * root % prime
    if exponent % 2 = 0 then square else square * base % prime
termination_by exponent
decreasing_by omega

/-- The reciprocal of a field element. -/
def inverse (x : Nat) : Nat := power x (prime - 2)

/-- `a - b` in the field. -/
def sub (a b : Nat) : Nat := (a + prime - b % prime) % prime

/-- A point `(X / Z, Y / Z)` together with `T = X Y / Z`. -/
structure Point where
  x : Nat
  y : Nat
  z : Nat
  t : Nat
  deriving DecidableEq, Repr, Inhabited

namespace Point

/-- The neutral point. -/
def zero : Point := ⟨0, 1, 1, 0⟩

/-- The point with two coordinates. -/
def ofCoordinates (x y : Nat) : Point := ⟨x, y, 1, x * y % prime⟩

/-- The base point. -/
def base : Point := ofCoordinates
  15112221349535400772501151409588531511454012693041857206046113283949847762202
  46316835694926478169428394003475163141307993866256225615783033603165251855960

/-- The sum of two points. -/
def add (p q : Point) : Point :=
  let a := sub p.y p.x * sub q.y q.x % prime
  let b := (p.y + p.x) * (q.y + q.x) % prime
  let c := p.t * q.t % prime * (2 * coefficient) % prime
  let d := 2 * p.z * q.z % prime
  let e := sub b a
  let f := sub d c
  let g := d + c
  let h := b + a
  ⟨e * f % prime, g * h % prime, f * g % prime, e * h % prime⟩

/-- The point with the opposite sign. -/
def neg (p : Point) : Point := { p with x := sub 0 p.x, t := sub 0 p.t }

/-- The sum of `n` copies of a point. -/
def mul (n : Nat) (p : Point) : Point :=
  if h : n = 0 then zero
  else
    let half := mul (n / 2) p
    let twice := half.add half
    if n % 2 = 0 then twice else twice.add p
termination_by n
decreasing_by omega

end Point

/-- A number in the given number of bytes, the lowest first. -/
def bytesOf (n count : Nat) : List UInt8 := (Sha2.bytesOf n count).reverse

/-- The number that bytes denote, the lowest first. -/
def ofBytes (bytes : List UInt8) : Nat := Sha2.ofBytes bytes.reverse

/-- The bytes of a point: its second coordinate, with the parity of the first in the top bit. -/
def Point.encode (p : Point) : List UInt8 :=
  let inv := inverse p.z
  let x := p.x * inv % prime
  let y := p.y * inv % prime
  bytesOf (y + (x % 2) <<< 255) 32

/-- A square root of a quotient of field elements, if there is one. -/
def rootOfRatio? (num den : Nat) : Option Nat :=
  let cube := den * den % prime * den % prime
  let seventh := cube * cube % prime * den % prime
  let x := num * cube % prime * power (num * seventh % prime) ((prime - 5) / 8) % prime
  let square := den * (x * x % prime) % prime
  if square = num % prime then some x
  else if square = sub 0 num then some (x * rootOfMinusOne % prime)
  else none

/-- The point that bytes spell. -/
def Point.decode? (bytes : List UInt8) : Option Point := do
  if bytes.length ≠ 32 then none
  let n := ofBytes bytes
  let odd := n >>> 255
  let y := n % (1 <<< 255) % prime
  let square := y * y % prime
  let x ← rootOfRatio? (sub square 1) (coefficient * square % prime + 1)
  return ofCoordinates (if x % 2 = odd then x else sub 0 x) y

/-- The secret scalar of a seed, and the bytes that make its nonces. -/
def expand (seed : List UInt8) : Nat × List UInt8 :=
  let digest := sha512 seed
  let low := ofBytes (digest.take 32)
  ((1 <<< 254) + low % (1 <<< 254) / 8 * 8, digest.drop 32)

/-- The public key of a seed. -/
def publicKey (seed : List UInt8) : List UInt8 :=
  (Point.mul (expand seed).1 Point.base).encode

/-- The scalar of a digest. -/
def scalar (bytes : List UInt8) : Nat := ofBytes (sha512 bytes) % order

/-- The signature of a message. -/
def sign (seed message : List UInt8) : List UInt8 :=
  let (secret, nonceKey) := expand seed
  let key := publicKey seed
  let nonce := scalar (nonceKey ++ message)
  let commitment := (Point.mul nonce Point.base).encode
  let challenge := scalar (commitment ++ key ++ message)
  commitment ++ bytesOf ((nonce + challenge * secret) % order) 32

/-- Whether a signature of a message belongs to a public key. -/
def verify (key message signature : List UInt8) : Bool :=
  let commitment := signature.take 32
  let response := ofBytes (signature.drop 32)
  match Point.decode? key with
  | none => false
  | some point =>
      let challenge := scalar (commitment ++ key ++ message)
      signature.length = 64 && response < order &&
        ((Point.mul response Point.base).add (Point.mul challenge point.neg)).encode == commitment

end Mandate.Crypto.Ed25519
