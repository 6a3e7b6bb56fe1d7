import TokenBridge.Hash.Keccak
import TokenBridge.Table.Rank
import TokenBridge.Text.Hex
import TokenBridge.Text.Utf8

/-!
# Addresses

The 20-byte names of parties: contracts and keys on Ethereum, accounts and validators on the host
chain. They are ordered by their bytes. Host addresses are shown in lower-case digits, Ethereum
addresses with the mixed case that carries a checksum.
-/

namespace TokenBridge

open Text

/-- What kind of party an address names. -/
inductive Party where
  | ethereum
  | account
  | validator
deriving DecidableEq, Repr

/-- An address of a party of the given kind. -/
structure Address (party : Party) where
  word : Word 20
deriving DecidableEq, Repr

/-- A contract or a key on Ethereum. -/
abbrev EthAddress := Address .ethereum

/-- A token holder or an orchestrator on the host chain. -/
abbrev AccountAddress := Address .account

abbrev ValidatorAddress := Address .validator

instance {party : Party} : Ranked (Address party) where
  rank a := [a.word.toNat]
  rank_injective := by
    rintro ⟨a⟩ ⟨b⟩ h
    exact congrArg Address.mk (Word.ext (List.cons.inj h).1)

instance {party : Party} : EvenRank (Address party) where
  length_rank _ _ := rfl

namespace Address

variable {party : Party}

/-- The address of all zero bytes, which names nobody. -/
def zero : Address party :=
  ⟨.ofNat 20 0⟩

instance : Inhabited (Address party) :=
  ⟨zero⟩

def isZero (a : Address party) : Bool :=
  a.word.toNat == 0

def toBytes (a : Address party) : List UInt8 :=
  a.word.toBytes

def le (a b : Address party) : Bool :=
  decide (a.word.toNat ≤ b.word.toNat)

/-- Digits with each letter raised where the matching digit of a hash is at least eight. -/
def raiseLetters : List Char → List Char → List Char
  | digit :: digits, mark :: hash =>
    (if '8' ≤ mark then digit.toUpper else digit) :: raiseLetters digits hash
  | digits, _ => digits

/-- The digits with the case of the checksum: the hash of the lower-case digits tells which letters
are raised. -/
def checksumDigits (a : Address party) : List Char :=
  let digits := Hex.encode a.toBytes
  raiseLetters digits (Hex.encode (keccak256 (utf8 digits)).toBytes)

def chars : {party : Party} → Address party → List Char
  | .ethereum, a => '0' :: 'x' :: a.checksumDigits
  | _, a => '0' :: 'x' :: Hex.encode a.toBytes

def text (a : Address party) : String :=
  String.ofList a.chars

end Address

def Party.typeName : Party → String
  | .ethereum => "EthAddress"
  | .account => "AccountAddress"
  | .validator => "ValidatorAddress"

/-- The diagnostic form: the text form in brackets after the kind. -/
def Address.diagnostic {party : Party} (a : Address party) : String :=
  party.typeName ++ "(" ++ a.text ++ ")"

end TokenBridge
