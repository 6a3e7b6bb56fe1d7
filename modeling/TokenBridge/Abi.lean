import TokenBridge.Address.Basic
import TokenBridge.Amount
import TokenBridge.Nonce

/-!
# Contract argument encoding

The byte layout in which a contract receives its arguments: a head of one word an argument, and a
tail that holds the arrays. The head word of an array is the offset of its place in the tail; an
array is its length followed by its elements, laid out in the same way.
-/

namespace TokenBridge

/-- A text that does not fit in one word: the number of its bytes. -/
structure TagTooLong where
  size : Nat
deriving DecidableEq, Repr

def TagTooLong.message (fault : TagTooLong) : String :=
  "Value of " ++ toString fault.size ++ " bytes does not fit in bytes32"

namespace Abi

/-- An argument: a word, or an array whose length is not part of its type. -/
inductive Arg where
  | word (value : Word 32)
  | array (items : List Arg)

def Arg.uint64 (n : UInt64) : Arg :=
  .word (.ofNat 32 n.toNat)

def Arg.nonce (n : Nonce) : Arg :=
  .uint64 n.value

def Arg.amount (a : Amount) : Arg :=
  .word a.word

/-- An address as an argument, filled up with zeros at the front. -/
def Arg.address (a : EthAddress) : Arg :=
  .word (.ofNat 32 a.word.toNat)

/-- The bytes of a text filled up with zeros at the end. A longer text would be cut by the
contract, so it is refused. -/
def tag (s : String) : Except TagTooLong Digest :=
  let bytes := Text.utf8 s.toList
  if bytes.length ≤ 32 then
    .ok (.ofNat 32 (ofBigEndian (bytes ++ List.replicate (32 - bytes.length) 0)))
  else .error ⟨bytes.length⟩

mutual

/-- The heads and the tails of some arguments, of which the first tail starts at `offset`. -/
def layout (offset : Nat) : List Arg → List UInt8 × List UInt8
  | [] => ([], [])
  | arg :: rest =>
    let own := arg.tail
    let (heads, tails) := layout (offset + own.length) rest
    (arg.head offset ++ heads, own ++ tails)

/-- The head of an argument: the word itself, or the offset of its tail. -/
def Arg.head (offset : Nat) : Arg → List UInt8
  | .word value => value.toBytes
  | .array _ => bigEndian 32 offset

/-- The tail of an argument: nothing, or the length and the elements. -/
def Arg.tail : Arg → List UInt8
  | .word _ => []
  | .array items =>
    let (heads, tails) := layout (32 * items.length) items
    bigEndian 32 items.length ++ heads ++ tails

end

def encode (args : List Arg) : List UInt8 :=
  let (heads, tails) := layout (32 * args.length) args
  heads ++ tails

end Abi

end TokenBridge
