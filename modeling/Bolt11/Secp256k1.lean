/-
This file checks and recovers signatures over the curve y² = x³ + 7 modulo the prime
2²⁵⁶ - 2³² - 977.

Points are kept in projective form while they are added up, so that one division at the end is
enough. A signature is a pair of numbers below the order of the curve's generator. Of the two
signatures that differ only in the sign of the second number, the check accepts the one with the
smaller number; recovery takes both.
-/

import Bolt11.Fault

namespace Bolt11.Secp256k1

/-! ### Arithmetic -/

/-- The prime that coordinates are counted modulo. -/
def prime : Nat := 0xFFFFFFFFFFFFFFFFFFFFFFFFFFFFFFFFFFFFFFFFFFFFFFFFFFFFFFFEFFFFFC2F

/-- The order of the generator. -/
def order : Nat := 0xFFFFFFFFFFFFFFFFFFFFFFFFFFFFFFFEBAAEDCE6AF48A03BBFD25E8CD0364141

/-- The lowest 256 bits of a number, the most significant first. -/
def bits (value : Nat) : List Bool := (List.range 256).map fun place => value.testBit (255 - place)

/-- A power modulo a number, for exponents below 2²⁵⁶. -/
def power (modulus base exponent : Nat) : Nat :=
  (bits exponent).foldl
    (fun result bit =>
      let square := result * result % modulus
      if bit then square * base % modulus else square)
    1

/-- The inverse modulo a prime. -/
def inverse (modulus value : Nat) : Nat := power modulus value (modulus - 2)

/-- The difference modulo the prime. -/
def sub (left right : Nat) : Nat := (left + (prime - right % prime)) % prime

/-! ### Points -/

/-- A point (x / z², y / z³); where z is zero it is the neutral point. -/
structure Point where
  x : Nat
  y : Nat
  z : Nat
  deriving DecidableEq, Repr

namespace Point

/-- The neutral point. -/
def neutral : Point := ⟨1, 1, 0⟩

/-- A point with the given coordinates. -/
def ofAffine (x y : Nat) : Point := ⟨x, y, 1⟩

/-- The generator. -/
def generator : Point := ofAffine
  0x79BE667EF9DCBBAC55A06295CE870B07029BFCDB2DCE28D959F2815B16F81798
  0x483ADA7726A3C4655DA4FBFC0E1108A8FD17B448A68554199C47D08FFB10D4B8

/-- The coordinates of a point that is not neutral. -/
def toAffine? (point : Point) : Option (Nat × Nat) :=
  if point.z = 0 then none
  else
    let scale := inverse prime point.z
    let square := scale * scale % prime
    some (point.x * square % prime, point.y * square % prime * scale % prime)

/-- A point added to itself. -/
def double (point : Point) : Point :=
  if point.z = 0 ∨ point.y = 0 then neutral
  else
    let ySquare := point.y * point.y % prime
    let s := 4 * point.x * ySquare % prime
    let m := 3 * point.x * point.x % prime
    let x := sub (m * m) (2 * s)
    ⟨x, sub (m * sub s x) (8 * ySquare * ySquare), 2 * point.y * point.z % prime⟩

/-- The sum of two points. -/
def add (left right : Point) : Point :=
  if left.z = 0 then right
  else if right.z = 0 then left
  else
    let leftSquare := left.z * left.z % prime
    let rightSquare := right.z * right.z % prime
    let u := left.x * rightSquare % prime
    let s := left.y * rightSquare % prime * right.z % prime
    let h := sub (right.x * leftSquare % prime) u
    let r := sub (right.y * leftSquare % prime * left.z % prime) s
    if h = 0 then
      if r = 0 then double left else neutral
    else
      let hSquare := h * h % prime
      let hCube := hSquare * h % prime
      let v := u * hSquare % prime
      let x := sub (r * r) (hCube + 2 * v)
      ⟨x, sub (r * sub v x) (s * hCube), h * left.z % prime * right.z % prime⟩

/-- A multiple of a point, for factors below 2²⁵⁶. -/
def times (factor : Nat) (point : Point) : Point :=
  (bits factor).foldl
    (fun sum bit =>
      let doubled := double sum
      if bit then add doubled point else doubled)
    neutral

end Point

/-- The point with the given first coordinate whose second one is odd or even as asked. -/
def lift? (x : Nat) (odd : Bool) : Option (Nat × Nat) :=
  if prime ≤ x then none
  else
    let square := (x * x % prime * x + 7) % prime
    let root := power prime square ((prime + 1) / 4)
    if root * root % prime ≠ square then none
    else if (root % 2 == 1) == odd then some (x, root) else some (x, sub 0 root)

/-! ### Public keys -/

/-- The point of a public key: a parity octet and one coordinate, or a form octet and both. The
form octets 6 and 7 also tell the parity, which has to be right. -/
def readKey? (key : Bytes) : Option (Nat × Nat) :=
  match key with
  | [] => none
  | form :: coordinates =>
    if coordinates.length = 32 ∧ (form = 2 ∨ form = 3) then
      lift? (Bytes.toNat coordinates) (form == 3)
    else if coordinates.length = 64 ∧ (form = 4 ∨ form = 6 ∨ form = 7) then
      let x := Bytes.toNat (coordinates.take 32)
      let y := Bytes.toNat (coordinates.drop 32)
      if prime ≤ x ∨ prime ≤ y then none
      else if y * y % prime ≠ (x * x % prime * x + 7) % prime then none
      else if form = 6 ∧ y % 2 = 1 then none
      else if form = 7 ∧ y % 2 = 0 then none
      else some (x, y)
    else none

/-- A point as a public key of thirty-three octets. -/
def writeKey (x y : Nat) : Bytes := (if y % 2 = 0 then 2 else 3) :: Bytes.ofNat 32 x

/-! ### Signatures -/

/-- The two numbers of a signature of sixty-four octets, both below the order. -/
def readSignature? (signature : Bytes) : Option (Nat × Nat) :=
  if signature.length = 64 then
    let r := Bytes.toNat (signature.take 32)
    let s := Bytes.toNat (signature.drop 32)
    if r < order ∧ s < order then some (r, s) else none
  else none

/-- Whether a signature is the key owner's signature of a digest, with the smaller second
number. -/
def verify (key digest signature : Bytes) : Bool :=
  match readKey? key, readSignature? signature with
  | some (x, y), some (r, s) =>
    if digest.length ≠ 32 ∨ r = 0 ∨ s = 0 ∨ order / 2 < s then false
    else
      let inverted := inverse order s
      let message := Bytes.toNat digest % order
      let sum := Point.add (Point.times (message * inverted % order) Point.generator)
        (Point.times (r * inverted % order) (Point.ofAffine x y))
      match sum.toAffine? with
      | some (x, _) => x % order == r
      | none => false
  | _, _ => false

/-- The public key whose owner signed a digest of thirty-two octets. The recovery number tells
whether the second coordinate of the signature's point is odd, and whether the first one is past
the order. -/
def recover (digest signature : Bytes) (number : Int) : Except Refusal Bytes :=
  if signature.length ≠ 64 then .error .unreadable
  else if number < 0 ∨ 3 < number then .error (.recoveryNumber number)
  else if digest.length ≠ 32 then .error (.digestLength digest.length)
  else match readSignature? signature with
    | none => .error .unreadable
    | some (r, s) =>
      if r = 0 ∨ s = 0 then .error .noKey
      else match lift? (if 2 ≤ number then r + order else r) (number % 2 == 1) with
        | none => .error .noKey
        | some (x, y) =>
          let inverted := inverse order r
          let message := Bytes.toNat digest % order
          let sum := Point.add
            (Point.times ((order - message) * inverted % order) Point.generator)
            (Point.times (s * inverted % order) (Point.ofAffine x y))
          match sum.toAffine? with
          | some (x, y) => .ok (writeKey x y)
          | none => .error .noKey

end Bolt11.Secp256k1
