import TokenBridge.Json.Codec
import TokenBridge.Malformed
import TokenBridge.Text.Base64
import TokenBridge.Text.Blank

/-!
# Nonces

Sequence numbers of 64 bits. As text a nonce is a decimal numeral or the base64 form of its eight
bytes; no text is of both forms.
-/

namespace TokenBridge

open Text

structure Nonce where
  value : UInt64
deriving DecidableEq, Repr

instance : Inhabited Nonce :=
  ⟨⟨0⟩⟩

instance : Ranked Nonce where
  rank n := [n.value.toNat]
  rank_injective := by
    rintro ⟨a⟩ ⟨b⟩ h
    exact congrArg Nonce.mk (UInt64.toNat_inj.mp (List.cons.inj h).1)

instance : EvenRank Nonce where
  length_rank _ _ := rfl

namespace Nonce

/-- The nonce before the first one. -/
def zero : Nonce :=
  ⟨0⟩

def toNat (n : Nonce) : Nat :=
  n.value.toNat

instance : LT Nonce :=
  ⟨fun a b => a.toNat < b.toNat⟩

instance : LE Nonce :=
  ⟨fun a b => a.toNat ≤ b.toNat⟩

instance (a b : Nonce) : Decidable (a < b) :=
  inferInstanceAs (Decidable (a.toNat < b.toNat))

instance (a b : Nonce) : Decidable (a ≤ b) :=
  inferInstanceAs (Decidable (a.toNat ≤ b.toNat))

instance : Min Nonce :=
  ⟨fun a b => if a ≤ b then a else b⟩

def next? (n : Nonce) : Option Nonce :=
  if n.toNat + 1 < UInt64.size then some ⟨UInt64.ofNat (n.toNat + 1)⟩ else none

def text (n : Nonce) : String :=
  String.ofList (Decimal.digits n.toNat)

/-- The eight bytes, most significant first. -/
def toBytes (n : Nonce) : List UInt8 :=
  bigEndian 8 n.toNat

/-- The nonce of exactly eight bytes. -/
def ofBytes (bytes : List UInt8) : Except Malformed Nonce :=
  if bytes.length = 8 then .ok ⟨UInt64.ofNat (ofBigEndian bytes)⟩
  else .error (.length 8 bytes.length)

def base64 (n : Nonce) : List Char :=
  Base64.encode n.toBytes

/-- The nonce that a text between blanks stands for: base64 of eight bytes, or else decimal. -/
def parse (s : List Char) : Except Malformed Nonce :=
  let s := trim s
  match ((Base64.decode? s).map ofBytes : Option (Except Malformed Nonce)) with
  | some (.ok n) => .ok n
  | _ =>
    match Decimal.read UInt64.size s with
    | .ok n => .ok ⟨UInt64.ofNat n⟩
    | .error fault => .error (.nonce (String.ofList s) fault)

instance : JsonForm Nonce where
  toJson n := .nat n.toNat
  ofJson?
    | .num n => (Json.natBelow? UInt64.size (.num n)).map fun n => ⟨UInt64.ofNat n⟩
    | .str (.text s) => (parse s.toList).toOption
    | _ => none

end Nonce

end TokenBridge
