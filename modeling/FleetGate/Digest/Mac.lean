import FleetGate.Digest.Sha256
import FleetGate.Digest.Sha512

/-!
# Keyed message authentication codes

A tag over a message under a key, by nesting a digest twice. Three digests are in use; a token
names its own by `HS256`, `HS384` or `HS512`.
-/

namespace FleetGate

/-- The digests that a tag can be built on. -/
inductive Algorithm where
  | hs256
  | hs384
  | hs512
  deriving DecidableEq

namespace Algorithm

/-- The name of an algorithm in a token header. -/
def name : Algorithm → String
  | hs256 => "HS256"
  | hs384 => "HS384"
  | hs512 => "HS512"

/-- The algorithm of a name. -/
def ofName? (name : Text) : Option Algorithm :=
  [hs256, hs384, hs512].find? fun algorithm => Text.ofString algorithm.name = name

/-- The digest of an algorithm. -/
def digest : Algorithm → Bytes → Bytes
  | hs256 => Sha256.digest
  | hs384 => Sha512.digest384
  | hs512 => Sha512.digest

/-- The number of bytes in a block of the digest. -/
def blockSize : Algorithm → Nat
  | hs256 => 64
  | hs384 => 128
  | hs512 => 128

/-- A key of exactly one block: long keys are digested first, short ones filled with zeros. -/
def blockKey (algorithm : Algorithm) (key : Bytes) : Bytes :=
  let short := if algorithm.blockSize < key.length then algorithm.digest key else key
  short ++ List.replicate (algorithm.blockSize - short.length) 0

/-- The tag of a message under a key. -/
def mac (algorithm : Algorithm) (key message : Bytes) : Bytes :=
  let key := algorithm.blockKey key
  let inner := algorithm.digest (key.map (· ^^^ 0x36) ++ message)
  algorithm.digest (key.map (· ^^^ 0x5C) ++ inner)

theorem ofName?_name (algorithm : Algorithm) :
    ofName? (Text.ofString algorithm.name) = some algorithm := by
  cases algorithm <;> decide

end Algorithm

end FleetGate
