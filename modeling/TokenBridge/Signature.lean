import TokenBridge.Address.Text
import TokenBridge.Curve.Ecdsa

/-!
# Ethereum signatures

Wallets sign a hash under a fixed prefix, and a contract recovers the signer's address from the 65
bytes `r`, `s`, `v`. The recovery byte `v` is 27 or 28; the older 0 and 1 are accepted too.
-/

namespace TokenBridge

open Secp256k1

/-- Why a signature cannot be made or is not accepted. -/
inductive SignatureFault where
  | missingKey
  | length (got : Nat)
  | recoveryByte (v : UInt8)
  | format
  | unrecoverable
  | otherSigner (expected actual : EthAddress)
  | unsigned (reason : String)
deriving DecidableEq, Repr

def SignatureFault.message : SignatureFault → String
  | .missingKey => "Missing private key"
  | .length got => "Invalid signature length: expected 65 bytes, got " ++ toString got
  | .recoveryByte v => "Invalid recovery ID: " ++ toString v.toNat
  | .format => "Invalid signature format"
  | .unrecoverable => "Failed to recover public key"
  | .otherSigner expected actual =>
    "Signer mismatch: expected " ++ expected.text ++ ", got " ++ actual.text
  | .unsigned reason => "Signing failed: " ++ reason

/-- The prefix under which a wallet signs 32 bytes. -/
def messagePrefix : List UInt8 :=
  0x19 :: Text.utf8 "Ethereum Signed Message:\n32".toList

def messageDigest (hash : Digest) : Digest :=
  keccak256 (messagePrefix ++ hash.toBytes)

/-- The address of a public key: the last twenty bytes of the hash of its coordinates. -/
def Secp256k1.PublicKey.address (key : PublicKey) : EthAddress :=
  ⟨.ofNat 20 (keccak256 (key.x.toBytes ++ key.y.toBytes)).toNat⟩

def Secp256k1.SecretKey.address (key : SecretKey) : EthAddress :=
  (key.publicKey?.map PublicKey.address).getD .zero

/-- A signature of 65 bytes. -/
structure EthSignature where
  r : Word 32
  s : Word 32
  v : UInt8
deriving DecidableEq, Repr

namespace EthSignature

def toBytes (sig : EthSignature) : List UInt8 :=
  sig.r.toBytes ++ sig.s.toBytes ++ [sig.v]

/-- The signature of exactly 65 bytes. -/
def ofBytes (bytes : List UInt8) : Except SignatureFault EthSignature :=
  match Word.ofBytes? (bytes.take 32), Word.ofBytes? ((bytes.drop 32).take 32), bytes.drop 64 with
  | some r, some s, [v] => .ok ⟨r, s, v⟩
  | _, _, _ => .error (.length bytes.length)

def diagnostic (sig : EthSignature) : String :=
  "EthSignature(0x" ++ String.ofList (Text.Hex.encode sig.toBytes) ++ ")"

def recoveryByte (odd : Bool) : UInt8 :=
  if odd then 28 else 27

/-- The form of 65 bytes of a recoverable signature. -/
def pack (sig : Recoverable) : EthSignature :=
  ⟨.ofNat 32 sig.r, .ofNat 32 sig.s, recoveryByte sig.odd⟩

/-- The signature of a hash by a key. The curve gives no reason where it makes none. -/
def sign (hash : Digest) (key : Option SecretKey) : Except SignatureFault EthSignature :=
  key.elim (.error .missingKey) fun key =>
    (key.sign? (messageDigest hash)).elim (.error (.unsigned "signature error")) fun sig =>
      .ok (pack sig)

def parity (v : UInt8) : Except SignatureFault Bool :=
  if v = 0 ∨ v = 27 then .ok false
  else if v = 1 ∨ v = 28 then .ok true
  else .error (.recoveryByte v)

/-- The address that signed a hash. Length, recovery byte and the two numbers are checked in this
order before the key is recovered. -/
def recover (hash : Digest) (bytes : List UInt8) : Except SignatureFault EthAddress := do
  let sig ← ofBytes bytes
  let odd ← parity sig.v
  let r := sig.r.toNat
  let s := sig.s.toNat
  if r = 0 ∨ order ≤ r ∨ s = 0 ∨ order ≤ s then throw .format
  match Recoverable.publicKey? ⟨r, s, odd⟩ (messageDigest hash) with
  | some key => return key.address
  | none => throw .unrecoverable

def verify (hash : Digest) (bytes : List UInt8) (expected : EthAddress) :
    Except SignatureFault Unit := do
  let actual ← recover hash bytes
  if actual ≠ expected then throw (.otherSigner expected actual)

/-- The bytes that a value stands for: a list of numbers, or a string, which need not be a text. -/
def bytesOf? : Json → Option (List UInt8)
  | .str s => some s.bytes
  | value => ofJson? value

instance : JsonForm EthSignature where
  toJson sig := .record [("bytes", toJson sig.toBytes)]
  ofJson? value := do
    let fields ← value.record? ["bytes"]
    match Json.valuesOf "bytes" fields with
    | [bytes] => (ofBytes (← bytesOf? bytes)).toOption
    | _ => none

end EthSignature

/-- The JSON form of a hash: its bytes as a list of numbers. -/
instance : JsonForm Digest where
  toJson hash := toJson hash.toBytes
  ofJson? value := (ofJson? value).bind fun bytes => Word.ofBytes? bytes

end TokenBridge
