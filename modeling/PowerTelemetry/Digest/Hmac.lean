import PowerTelemetry.Digest.Sha256
/-!
# Keyed digests

The keyed digest of a message by SHA-256: the digest of the key and the digest
of the key and the message, the key masked in two ways.
-/

namespace PowerTelemetry.Digest

/-- The bytes in a block of the digest. -/
def blockLength : Nat := 64

/-- A key with zeros up to a block; a key longer than that gives way to its
digest. -/
def blockKey (key : List UInt8) : List UInt8 :=
  let short := if blockLength < key.length then sha256 key else key
  short ++ List.replicate (blockLength - short.length) 0

/-- The keyed digest of a message. -/
def hmac (key message : List UInt8) : List UInt8 :=
  let k := blockKey key
  sha256 (k.map (· ^^^ 0x5c) ++ sha256 (k.map (· ^^^ 0x36) ++ message))

end PowerTelemetry.Digest
