import TokenBridge.Word

/-!
# Keccak-256

The sponge over the permutation `f` on 25 lanes of 64 bits, with rate 136 bytes and the padding
that opens with a single one bit. Lane `(x, y)` stands at position `x + 5 y` of the state.
-/

namespace TokenBridge.Keccak

abbrev Lanes := List UInt64

/-- A lane turned left by `n` bits, `n` below 64. -/
def turn (lane : UInt64) (n : Nat) : UInt64 :=
  if n = 0 then lane else (lane <<< n.toUInt64) ||| (lane >>> (64 - n).toUInt64)

/-- Lane `(x, y)`, both taken modulo five. -/
def lane (s : Lanes) (x y : Nat) : UInt64 :=
  s.getD (x % 5 + 5 * (y % 5)) 0

/-- Mixes the parities of two columns into each lane. -/
def theta (s : Lanes) : Lanes :=
  let parity := (List.range 5).map fun x =>
    lane s x 0 ^^^ lane s x 1 ^^^ lane s x 2 ^^^ lane s x 3 ^^^ lane s x 4
  let mix := (List.range 5).map fun x =>
    parity.getD ((x + 4) % 5) 0 ^^^ turn (parity.getD ((x + 1) % 5) 0) 1
  s.zipWith (· ^^^ ·) (mix ++ mix ++ mix ++ mix ++ mix)

def turns : List Nat :=
  [0, 1, 62, 28, 27, 36, 44, 6, 55, 20, 3, 10, 43, 25, 39, 41, 45, 15, 21, 8, 18, 2, 61, 56, 14]

/-- Turns each lane by its own amount. -/
def rho (s : Lanes) : Lanes :=
  s.zipWith turn turns

def pi (s : Lanes) : Lanes :=
  (List.range 25).map fun i => lane s (i % 5 + 3 * (i / 5)) (i % 5)

/-- Combines each lane with the next two of its row. -/
def chi (s : Lanes) : Lanes :=
  (List.range 25).map fun i =>
    lane s (i % 5) (i / 5) ^^^ ((~~~lane s (i % 5 + 1) (i / 5)) &&& lane s (i % 5 + 2) (i / 5))

/-- Adds a round constant to the first lane. -/
def iota (constant : UInt64) : Lanes → Lanes
  | [] => []
  | first :: rest => (first ^^^ constant) :: rest

def constants : List UInt64 :=
  [0x0000000000000001, 0x0000000000008082, 0x800000000000808a, 0x8000000080008000,
    0x000000000000808b, 0x0000000080000001, 0x8000000080008081, 0x8000000000008009,
    0x000000000000008a, 0x0000000000000088, 0x0000000080008009, 0x000000008000000a,
    0x000000008000808b, 0x800000000000008b, 0x8000000000008089, 0x8000000000008003,
    0x8000000000008002, 0x8000000000000080, 0x000000000000800a, 0x800000008000000a,
    0x8000000080008081, 0x8000000000008080, 0x0000000080000001, 0x8000000080008008]

def f (s : Lanes) : Lanes :=
  constants.foldl (fun s constant => iota constant (chi (pi (rho (theta s))))) s

/-- The `n` low bytes of a lane, least significant first. -/
def laneBytes : Nat → UInt64 → List UInt8
  | 0, _ => []
  | n + 1, lane => lane.toUInt8 :: laneBytes n (lane >>> 8)

/-- The lane that bytes spell, least significant first. -/
def ofLaneBytes : List UInt8 → UInt64
  | [] => 0
  | byte :: rest => byte.toUInt64 ||| (ofLaneBytes rest <<< 8)

def lanesOf : Nat → List UInt8 → Lanes
  | 0, _ => []
  | n + 1, bytes => ofLaneBytes (bytes.take 8) :: lanesOf n (bytes.drop 8)

/-- The number of bytes taken in at a time. -/
def rate : Nat := 136

/-- A message filled up to whole blocks. -/
def padded (message : List UInt8) : List UInt8 :=
  let missing := rate - message.length % rate
  if missing = 1 then message ++ [0x81]
  else message ++ 0x01 :: List.replicate (missing - 2) 0 ++ [0x80]

def absorb : Nat → Lanes → List UInt8 → Lanes
  | 0, s, _ => s
  | blocks + 1, s, bytes =>
    absorb blocks (f (s.zipWith (· ^^^ ·) (lanesOf 17 (bytes.take rate) ++ List.replicate 8 0)))
      (bytes.drop rate)

/-- The first 32 bytes of a state. -/
def squeeze (s : Lanes) : List UInt8 :=
  (s.take 4).flatMap (laneBytes 8)

end TokenBridge.Keccak

namespace TokenBridge

def keccak256 (message : List UInt8) : Digest :=
  let bytes := Keccak.padded message
  let state := Keccak.absorb (bytes.length / Keccak.rate) (List.replicate 25 0) bytes
  .ofNat 32 (ofBigEndian (Keccak.squeeze state))

end TokenBridge
