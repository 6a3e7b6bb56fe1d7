/-!
# The curve `y² = x³ + 7`

The group of points over the prime field of 256 bits that Ethereum keys live in. Points are kept in
projective form `(X/Z², Y/Z³)`, with `Z = 0` for the neutral one, so that adding needs no division.
-/

namespace TokenBridge.Secp256k1

def prime : Nat :=
  0xfffffffffffffffffffffffffffffffffffffffffffffffffffffffefffffc2f

def order : Nat :=
  0xfffffffffffffffffffffffffffffffebaaedce6af48a03bbfd25e8cd0364141

/-! ## Arithmetic modulo a number -/

/-- The bits of `n` below `width`, most significant first. -/
def bits : Nat → Nat → List Bool
  | 0, _ => []
  | width + 1, n => n.testBit width :: bits width n

/-- `base ^ exponent` modulo `m`, for an exponent of at most 256 bits. -/
def powMod (m base exponent : Nat) : Nat :=
  (bits 256 exponent).foldl
    (fun acc bit => if bit then acc * acc % m * base % m else acc * acc % m) (1 % m)

/-- The inverse of a unit modulo the prime `m`. -/
def inverse (m n : Nat) : Nat :=
  powMod m n (m - 2)

/-- The difference modulo the field prime, of two reduced numbers. -/
def minus (a b : Nat) : Nat :=
  (a + prime - b) % prime

/-! ## Points -/

/-- A point in projective form. -/
structure Point where
  x : Nat
  y : Nat
  z : Nat
deriving DecidableEq

def Point.zero : Point :=
  ⟨1, 1, 0⟩

def Point.generator : Point :=
  ⟨0x79be667ef9dcbbac55a06295ce870b07029bfcdb2dce28d959f2815b16f81798,
    0x483ada7726a3c4655da4fbfc0e1108a8fd17b448a68554199c47d08ffb10d4b8, 1⟩

def Point.double (p : Point) : Point :=
  if p.z = 0 ∨ p.y = 0 then .zero
  else
    let yy := p.y * p.y % prime
    let s := 4 * p.x * yy % prime
    let m := 3 * p.x * p.x % prime
    let x := minus (m * m % prime) (2 * s % prime)
    ⟨x, minus (m * minus s x % prime) (8 * yy * yy % prime), 2 * p.y * p.z % prime⟩

def Point.add (p q : Point) : Point :=
  if p.z = 0 then q
  else if q.z = 0 then p
  else
    let pzz := p.z * p.z % prime
    let qzz := q.z * q.z % prime
    let u1 := p.x * qzz % prime
    let u2 := q.x * pzz % prime
    let s1 := p.y * q.z % prime * qzz % prime
    let s2 := q.y * p.z % prime * pzz % prime
    if u1 = u2 then
      if s1 = s2 then p.double else .zero
    else
      let h := minus u2 u1
      let r := minus s2 s1
      let hh := h * h % prime
      let hhh := hh * h % prime
      let v := u1 * hh % prime
      let x := minus (minus (r * r % prime) hhh) (2 * v % prime)
      ⟨x, minus (r * minus v x % prime) (s1 * hhh % prime), h * p.z % prime * q.z % prime⟩

/-- `n` times a point, for `n` below `2 ^ 256`. -/
def Point.mul (n : Nat) (p : Point) : Point :=
  (bits 256 n).foldl (fun acc bit => if bit then acc.double.add p else acc.double) .zero

/-- The coordinates of a point other than the neutral one. -/
def Point.affine? (p : Point) : Option (Nat × Nat) :=
  if p.z = 0 then none
  else
    let i := inverse prime p.z
    let ii := i * i % prime
    some (p.x * ii % prime, p.y * ii % prime * i % prime)

/-- The point with a given first coordinate whose second one has the given parity. -/
def Point.lift? (x : Nat) (odd : Bool) : Option Point :=
  let square := (x * x % prime * x + 7) % prime
  let root := powMod prime square ((prime + 1) / 4)
  if root * root % prime = square then
    some ⟨x, if (root % 2 = 1) = odd then root else minus 0 root, 1⟩
  else none

end TokenBridge.Secp256k1
