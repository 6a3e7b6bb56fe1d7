import TokenBridge.Word

/-!
# SHA-256 and its keyed form

The compression of 64-byte blocks into eight 32-bit words, the padded hash over it, and the keyed
hash that wraps two passes around a key of at most one block.
-/

namespace TokenBridge.Sha256

/-- A word turned right by `n` bits, `n` strictly between 0 and 32. -/
def turn (word : UInt32) (n : Nat) : UInt32 :=
  (word >>> n.toUInt32) ||| (word <<< (32 - n).toUInt32)

def constants : List UInt32 :=
  [0x428a2f98, 0x71374491, 0xb5c0fbcf, 0xe9b5dba5, 0x3956c25b, 0x59f111f1, 0x923f82a4, 0xab1c5ed5,
    0xd807aa98, 0x12835b01, 0x243185be, 0x550c7dc3, 0x72be5d74, 0x80deb1fe, 0x9bdc06a7, 0xc19bf174,
    0xe49b69c1, 0xefbe4786, 0x0fc19dc6, 0x240ca1cc, 0x2de92c6f, 0x4a7484aa, 0x5cb0a9dc, 0x76f988da,
    0x983e5152, 0xa831c66d, 0xb00327c8, 0xbf597fc7, 0xc6e00bf3, 0xd5a79147, 0x06ca6351, 0x14292967,
    0x27b70a85, 0x2e1b2138, 0x4d2c6dfc, 0x53380d13, 0x650a7354, 0x766a0abb, 0x81c2c92e, 0x92722c85,
    0xa2bfe8a1, 0xa81a664b, 0xc24b8b70, 0xc76c51a3, 0xd192e819, 0xd6990624, 0xf40e3585, 0x106aa070,
    0x19a4c116, 0x1e376c08, 0x2748774c, 0x34b0bcb5, 0x391c0cb3, 0x4ed8aa4a, 0x5b9cca4f, 0x682e6ff3,
    0x748f82ee, 0x78a5636f, 0x84c87814, 0x8cc70208, 0x90befffa, 0xa4506ceb, 0xbef9a3f7, 0xc67178f2]

/-- The eight chaining words. -/
structure Chain where
  a : UInt32
  b : UInt32
  c : UInt32
  d : UInt32
  e : UInt32
  f : UInt32
  g : UInt32
  h : UInt32

def start : Chain :=
  ⟨0x6a09e667, 0xbb67ae85, 0x3c6ef372, 0xa54ff53a, 0x510e527f, 0x9b05688c, 0x1f83d9ab, 0x5be0cd19⟩

/-- The words of a block, most significant byte first. -/
def blockWords : Nat → List UInt8 → List UInt32
  | 0, _ => []
  | n + 1, bytes => UInt32.ofNat (ofBigEndian (bytes.take 4)) :: blockWords n (bytes.drop 4)

/-- The next `n` schedule words, given the last sixteen. -/
def schedule : Nat → List UInt32 → List UInt32
  | 0, _ => []
  | n + 1, window =>
    let w1 := window.getD 1 0
    let w14 := window.getD 14 0
    let s0 := turn w1 7 ^^^ turn w1 18 ^^^ (w1 >>> 3)
    let s1 := turn w14 17 ^^^ turn w14 19 ^^^ (w14 >>> 10)
    let next := window.getD 0 0 + s0 + window.getD 9 0 + s1
    window.getD 0 0 :: schedule n (window.drop 1 ++ [next])

def round (s : Chain) (constant word : UInt32) : Chain :=
  let s1 := turn s.e 6 ^^^ turn s.e 11 ^^^ turn s.e 25
  let choice := (s.e &&& s.f) ^^^ ((~~~s.e) &&& s.g)
  let t1 := s.h + s1 + choice + constant + word
  let s0 := turn s.a 2 ^^^ turn s.a 13 ^^^ turn s.a 22
  let majority := (s.a &&& s.b) ^^^ (s.a &&& s.c) ^^^ (s.b &&& s.c)
  ⟨t1 + (s0 + majority), s.a, s.b, s.c, s.d + t1, s.e, s.f, s.g⟩

def compress (s : Chain) (block : List UInt8) : Chain :=
  let words := schedule 64 (blockWords 16 block)
  let t := (constants.zip words).foldl (fun t pair => round t pair.1 pair.2) s
  ⟨s.a + t.a, s.b + t.b, s.c + t.c, s.d + t.d, s.e + t.e, s.f + t.f, s.g + t.g, s.h + t.h⟩

/-- A message with its closing one bit, zeros, and its length in bits. -/
def padded (message : List UInt8) : List UInt8 :=
  message ++ 0x80 :: List.replicate ((119 - message.length % 64) % 64) 0 ++
    bigEndian 8 (8 * message.length)

def absorb : Nat → Chain → List UInt8 → Chain
  | 0, s, _ => s
  | blocks + 1, s, bytes => absorb blocks (compress s (bytes.take 64)) (bytes.drop 64)

def Chain.toBytes (s : Chain) : List UInt8 :=
  [s.a, s.b, s.c, s.d, s.e, s.f, s.g, s.h].flatMap fun word => bigEndian 4 word.toNat

def hash (message : List UInt8) : List UInt8 :=
  let bytes := padded message
  (absorb (bytes.length / 64) start bytes).toBytes

/-- The keyed hash of some bytes, for a key of at most 64 bytes. -/
def keyed (key message : List UInt8) : List UInt8 :=
  let block := key ++ List.replicate (64 - key.length) 0
  hash (block.map (· ^^^ 0x5c) ++ hash (block.map (· ^^^ 0x36) ++ message))

end TokenBridge.Sha256
