import FleetGate.Digest.Mac

/-!
# The length of a tag

A tag is as long as the digests of its algorithm, whatever the key and the message. No two
algorithms have digests of one length, so that a tag tells which algorithm it comes from
(`Algorithm.eq_of_mac_eq`).
-/

namespace FleetGate

theorem Sha256.length_toBytes (state : Sha256.State) : state.toBytes.length = 32 := by
  simp [Sha256.State.toBytes, Sha256.bytesOfWord]

theorem Sha512.length_toBytes (state : Sha512.State) : state.toBytes.length = 64 := by
  simp [Sha512.State.toBytes, Sha512.bytesOfWord]

namespace Algorithm

/-- The number of bytes in a digest. -/
def digestSize : Algorithm → Nat
  | hs256 => 32
  | hs384 => 48
  | hs512 => 64

theorem digestSize_ge (algorithm : Algorithm) : 32 ≤ algorithm.digestSize := by
  cases algorithm <;> decide

theorem digestSize_injective {algorithm other : Algorithm}
    (same : algorithm.digestSize = other.digestSize) : algorithm = other := by
  cases algorithm <;> cases other <;> first | rfl | cases same

theorem length_digest (algorithm : Algorithm) (message : Bytes) :
    (algorithm.digest message).length = algorithm.digestSize := by
  cases algorithm with
  | hs256 => exact Sha256.length_toBytes _
  | hs384 => simp [digest, Sha512.digest384, Sha512.length_toBytes, digestSize]
  | hs512 => exact Sha512.length_toBytes _

theorem length_mac (algorithm : Algorithm) (key message : Bytes) :
    (algorithm.mac key message).length = algorithm.digestSize :=
  length_digest algorithm _

theorem eq_of_mac_eq {algorithm other : Algorithm} {key otherKey message otherMessage : Bytes}
    (same : algorithm.mac key message = other.mac otherKey otherMessage) : algorithm = other := by
  apply digestSize_injective
  rw [← length_mac algorithm key message, same, length_mac]

end Algorithm

end FleetGate
