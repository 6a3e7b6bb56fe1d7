import TokenBridge.Curve.Secp256k1
import TokenBridge.Hash.Sha256

/-!
# Recoverable signatures

Signing a digest with a secret key, and recovering the public key from a signature. Signing is
deterministic: the one-time number comes from keyed hashes of the key and the digest. Of the two
forms of a signature only the one with `s` in the lower half of the group order is made or accepted.
-/

namespace TokenBridge.Secp256k1

/-- A secret key: a number between one and the group order. -/
structure SecretKey where
  toNat : Nat
  pos : 0 < toNat
  isLt : toNat < order

/-- The least number of bytes that a secret key is written with. -/
def SecretKey.minBytes : Nat := 24

/-- The secret key that bytes spell. Leading zeros may be left out, but no more than eight. -/
def SecretKey.ofBytes? (bytes : List UInt8) : Option SecretKey :=
  let n := ofBigEndian bytes
  if h : (minBytes ≤ bytes.length ∧ bytes.length ≤ 32) ∧ 0 < n ∧ n < order then
    some ⟨n, h.2.1, h.2.2⟩
  else none

structure PublicKey where
  x : Word 32
  y : Word 32
deriving DecidableEq

def PublicKey.ofPoint? (p : Point) : Option PublicKey :=
  p.affine?.map fun (x, y) => ⟨.ofNat 32 x, .ofNat 32 y⟩

def SecretKey.publicKey? (key : SecretKey) : Option PublicKey :=
  PublicKey.ofPoint? (Point.mul key.toNat .generator)

/-- A signature and the parity of the point it was made from. -/
structure Recoverable where
  r : Nat
  s : Nat
  odd : Bool
deriving DecidableEq

/-! ## One-time numbers -/

/-- The state of the generator: a key and a chaining value. -/
structure Drbg where
  key : List UInt8
  value : List UInt8

/-- Stirs a tag and some seed into the state. -/
def Drbg.stir (g : Drbg) (tag : UInt8) (seed : List UInt8) : Drbg :=
  let key := Sha256.keyed g.key (g.value ++ tag :: seed)
  ⟨key, Sha256.keyed key g.value⟩

/-- The state before the first number, from a secret key and a digest. -/
def Drbg.start (secret digest : Nat) : Drbg :=
  let seed := bigEndian 32 secret ++ bigEndian 32 (digest % order)
  let g : Drbg := ⟨List.replicate 32 0, List.replicate 32 1⟩
  (g.stir 0 seed).stir 1 seed

/-- The first number in range among the next `fuel` candidates. -/
def Drbg.draw? : Nat → Drbg → Option Nat
  | 0, _ => none
  | fuel + 1, g =>
    let value := Sha256.keyed g.key g.value
    let n := ofBigEndian value
    if 0 < n ∧ n < order then some n else draw? fuel (stir ⟨g.key, value⟩ 0 [])

/-! ## Signing and recovering -/

/-- The signature of a digest. It fails only where a one-time number in range or a usable one is
never drawn. -/
def SecretKey.sign? (key : SecretKey) (digest : Digest) : Option Recoverable := do
  let k ← Drbg.draw? 64 (.start key.toNat digest.toNat)
  let (x, y) ← (Point.mul k .generator).affine?
  let r := x % order
  let s := inverse order k * ((digest.toNat + r * key.toNat) % order) % order
  if r = 0 ∨ s = 0 then none
  else if s ≤ order / 2 then some ⟨r, s, decide (y % 2 = 1)⟩
  else some ⟨r, order - s, decide (y % 2 = 0)⟩

/-- The public key whose signature of the digest this is. -/
def Recoverable.publicKey? (sig : Recoverable) (digest : Digest) : Option PublicKey :=
  if order / 2 < sig.s then none
  else do
    let point ← Point.lift? sig.r sig.odd
    let i := inverse order sig.r
    let u := (order - digest.toNat % order) % order * i % order
    let v := sig.s * i % order
    PublicKey.ofPoint? ((Point.mul u .generator).add (Point.mul v point))

end TokenBridge.Secp256k1
