/-!
# Variable-length integers

A number below `2^64` as a run of bytes: each byte holds seven bits, the lowest
first, and its top bit says that another byte follows.  A number has at most
ten bytes, and the tenth holds one bit.

`readVarint?` also takes longer forms of a number than `writeVarint` writes, as
long as they fit ten bytes.
-/

namespace PowerTelemetry.Wire

/-- The bytes of a number, at most `count` of them. -/
def writeGroups : (count : Nat) → Nat → List UInt8
  | 0, _ => []
  | count + 1, n =>
    if n < 128 then [UInt8.ofNat n] else UInt8.ofNat (n % 128 + 128) :: writeGroups count (n / 128)

/-- The shortest bytes of a number below `2^64`. -/
def writeVarint (n : Nat) : List UInt8 :=
  writeGroups 10 n

/-- The number whose bytes are at the front, at most `count` of them, and the
bytes after it. -/
def readGroups? : (count : Nat) → List UInt8 → Option (Nat × List UInt8)
  | 0, _ => none
  | _ + 1, [] => none
  | count + 1, b :: rest =>
    if b.toNat < 128 then
      if count = 0 ∧ 2 ≤ b.toNat then none else some (b.toNat, rest)
    else (readGroups? count rest).map fun r => (b.toNat - 128 + 128 * r.1, r.2)

/-- The number at the front and the bytes after it. -/
def readVarint? (bytes : List UInt8) : Option (Nat × List UInt8) :=
  readGroups? 10 bytes

end PowerTelemetry.Wire
