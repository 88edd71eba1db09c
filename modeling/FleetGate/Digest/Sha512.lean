import FleetGate.Bytes.Utf8

/-!
# SHA-512 and SHA-384

The digests of 64 and 48 bytes over blocks of 128 bytes, in words of 64 bits. The shorter one
starts from other values and drops the last two words.
-/

namespace FleetGate

namespace Sha512

/-- The fractional parts of the cube roots of the first primes. -/
def roundConstants : Array UInt64 := #[
  0x428a2f98d728ae22, 0x7137449123ef65cd, 0xb5c0fbcfec4d3b2f, 0xe9b5dba58189dbbc,
  0x3956c25bf348b538, 0x59f111f1b605d019, 0x923f82a4af194f9b, 0xab1c5ed5da6d8118,
  0xd807aa98a3030242, 0x12835b0145706fbe, 0x243185be4ee4b28c, 0x550c7dc3d5ffb4e2,
  0x72be5d74f27b896f, 0x80deb1fe3b1696b1, 0x9bdc06a725c71235, 0xc19bf174cf692694,
  0xe49b69c19ef14ad2, 0xefbe4786384f25e3, 0x0fc19dc68b8cd5b5, 0x240ca1cc77ac9c65,
  0x2de92c6f592b0275, 0x4a7484aa6ea6e483, 0x5cb0a9dcbd41fbd4, 0x76f988da831153b5,
  0x983e5152ee66dfab, 0xa831c66d2db43210, 0xb00327c898fb213f, 0xbf597fc7beef0ee4,
  0xc6e00bf33da88fc2, 0xd5a79147930aa725, 0x06ca6351e003826f, 0x142929670a0e6e70,
  0x27b70a8546d22ffc, 0x2e1b21385c26c926, 0x4d2c6dfc5ac42aed, 0x53380d139d95b3df,
  0x650a73548baf63de, 0x766a0abb3c77b2a8, 0x81c2c92e47edaee6, 0x92722c851482353b,
  0xa2bfe8a14cf10364, 0xa81a664bbc423001, 0xc24b8b70d0f89791, 0xc76c51a30654be30,
  0xd192e819d6ef5218, 0xd69906245565a910, 0xf40e35855771202a, 0x106aa07032bbd1b8,
  0x19a4c116b8d2d0c8, 0x1e376c085141ab53, 0x2748774cdf8eeb99, 0x34b0bcb5e19b48a8,
  0x391c0cb3c5c95a63, 0x4ed8aa4ae3418acb, 0x5b9cca4f7763e373, 0x682e6ff3d6b2b8a3,
  0x748f82ee5defb2fc, 0x78a5636f43172f60, 0x84c87814a1f0ab72, 0x8cc702081a6439ec,
  0x90befffa23631e28, 0xa4506cebde82bde9, 0xbef9a3f7b2c67915, 0xc67178f2e372532b,
  0xca273eceea26619c, 0xd186b8c721c0c207, 0xeada7dd6cde0eb1e, 0xf57d4f7fee6ed178,
  0x06f067aa72176fba, 0x0a637dc5a2c898a6, 0x113f9804bef90dae, 0x1b710b35131c471b,
  0x28db77f523047d84, 0x32caab7b40c72493, 0x3c9ebe0a15c9bebc, 0x431d67c49c100d4c,
  0x4cc5d4becb3e42b6, 0x597f299cfc657e2a, 0x5fcb6fab3ad6faec, 0x6c44198c4a475817]

/-- Rotation to the right. -/
def rotate (word : UInt64) (count : UInt64) : UInt64 :=
  (word >>> count) ||| (word <<< (64 - count))

/-- The sum over the first working variable. -/
def bigSigma0 (word : UInt64) : UInt64 :=
  rotate word 28 ^^^ rotate word 34 ^^^ rotate word 39

/-- The sum over the fifth working variable. -/
def bigSigma1 (word : UInt64) : UInt64 :=
  rotate word 14 ^^^ rotate word 18 ^^^ rotate word 41

/-- The sum over the word fifteen places back in the schedule. -/
def smallSigma0 (word : UInt64) : UInt64 :=
  rotate word 1 ^^^ rotate word 8 ^^^ (word >>> 7)

/-- The sum over the word two places back in the schedule. -/
def smallSigma1 (word : UInt64) : UInt64 :=
  rotate word 19 ^^^ rotate word 61 ^^^ (word >>> 6)

/-- The eight chaining variables. -/
structure State where
  a : UInt64
  b : UInt64
  c : UInt64
  d : UInt64
  e : UInt64
  f : UInt64
  g : UInt64
  h : UInt64

/-- A word from bytes, the most significant first. -/
def wordOfBytes (bytes : Bytes) : UInt64 :=
  bytes.foldl (fun word byte => (word <<< 8) ||| byte.toUInt64) 0

/-- The bytes of a word, the most significant first. -/
def bytesOfWord (word : UInt64) : Bytes :=
  (List.range 8).map fun index => (word >>> UInt64.ofNat (8 * (7 - index))).toUInt8

/-- The words of a block. -/
def blockWords : (count : Nat) → Bytes → List UInt64
  | 0, _ => []
  | count + 1, bytes => wordOfBytes (bytes.take 8) :: blockWords count (bytes.drop 8)

/-- Adds words to a schedule by its recurrence. -/
def extend : (count : Nat) → Array UInt64 → Array UInt64
  | 0, words => words
  | count + 1, words =>
    let back (places : Nat) : UInt64 := words.getD (words.size - places) 0
    extend count
      (words.push (smallSigma1 (back 2) + back 7 + smallSigma0 (back 15) + back 16))

/-- One round. -/
def round (state : State) (word constant : UInt64) : State :=
  let choice := (state.e &&& state.f) ^^^ ((~~~state.e) &&& state.g)
  let majority := (state.a &&& state.b) ^^^ (state.a &&& state.c) ^^^ (state.b &&& state.c)
  let first := state.h + bigSigma1 state.e + choice + constant + word
  let second := bigSigma0 state.a + majority
  ⟨first + second, state.a, state.b, state.c, state.d + first, state.e, state.f, state.g⟩

/-- Mixes one block into the chaining variables. -/
def compress (state : State) (block : Bytes) : State :=
  let schedule := extend 64 (blockWords 16 block).toArray
  let last := (List.range 80).foldl
    (fun working index => round working (schedule.getD index 0) (roundConstants.getD index 0)) state
  ⟨state.a + last.a, state.b + last.b, state.c + last.c, state.d + last.d,
    state.e + last.e, state.f + last.f, state.g + last.g, state.h + last.h⟩

/-- A message with its padding: a one bit, zeros, and the length in bits. -/
def pad (message : Bytes) : Bytes :=
  let zeros := (128 + 127 - 16 - message.length % 128) % 128
  let length := 8 * message.length
  message ++ 0x80 :: List.replicate zeros 0 ++
    (List.range 16).map fun index => UInt8.ofNat (length / Nat.pow 256 (15 - index))

/-- Mixes a number of blocks into the chaining variables. -/
def absorb : (blocks : Nat) → State → Bytes → State
  | 0, state, _ => state
  | blocks + 1, state, bytes =>
    absorb blocks (compress state (bytes.take 128)) (bytes.drop 128)

/-- The bytes of the chaining variables. -/
def State.toBytes (state : State) : Bytes :=
  [state.a, state.b, state.c, state.d, state.e, state.f, state.g, state.h].flatMap bytesOfWord

/-- The fractional parts of the square roots of the first eight primes. -/
def initial : State :=
  ⟨0x6a09e667f3bcc908, 0xbb67ae8584caa73b, 0x3c6ef372fe94f82b, 0xa54ff53a5f1d36f1,
    0x510e527fade682d1, 0x9b05688c2b3e6c1f, 0x1f83d9abfb41bd6b, 0x5be0cd19137e2179⟩

/-- The fractional parts of the square roots of the ninth to sixteenth primes. -/
def initial384 : State :=
  ⟨0xcbbb9d5dc1059ed8, 0x629a292a367cd507, 0x9159015a3070dd17, 0x152fecd8f70e5939,
    0x67332667ffc00b31, 0x8eb44a8768581511, 0xdb0c2e0d64f98fa7, 0x47b5481dbefa4fa4⟩

/-- The digest of a message. -/
def digest (message : Bytes) : Bytes :=
  let bytes := pad message
  (absorb (bytes.length / 128) initial bytes).toBytes

/-- The shorter digest of a message. -/
def digest384 (message : Bytes) : Bytes :=
  let bytes := pad message
  (absorb (bytes.length / 128) initial384 bytes).toBytes.take 48

end Sha512

end FleetGate
