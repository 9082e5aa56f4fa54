import PowerTelemetry.Search
import PowerTelemetry.Text.Hex
/-!
# Internet addresses

An address of version 4 is four decimal octets with dots between.  One of
version 6 is eight pieces of up to four hexadecimal digits with colons between;
two colons stand for one zero piece or more, and the last two pieces may be
written as an address of version 4.

In its normal form an address of version 6 has two colons in place of its
longest run of zero pieces, the first of several, if that has two pieces at
least.
-/

namespace PowerTelemetry.Address

/-! ## Reading -/

/-- A number up to 255 without a needless zero in front. -/
def octet? (cs : List Char) : Option Nat :=
  if cs.isEmpty || 3 < cs.length || !cs.all Char.isDigit
    || (1 < cs.length && cs.head? == some '0') then none
  else
    let n := cs.foldl (fun n c => 10 * n + (c.toNat - '0'.toNat)) 0
    if n < 256 then some n else none

/-- The octets of an address of version 4. -/
def version4? (cs : List Char) : Option (List Nat) :=
  match (Search.splitAt '.' cs).mapM octet? with
  | some [a, b, c, d] => some [a, b, c, d]
  | _ => none

/-- One piece. -/
def piece? (cs : List Char) : Option Nat :=
  if cs.isEmpty || 4 < cs.length then none else Text.hexNumber? cs

/-- Pieces of which the last ones may be octets. -/
def pieces? (mixed : Bool) : List (List Char) → Option (List Nat)
  | [] => some []
  | [last] =>
    match mixed, version4? last with
    | true, some [a, b, c, d] => some [256 * a + b, 256 * c + d]
    | _, _ => (piece? last).map ([·])
  | first :: rest => do
    let n ← piece? first
    let more ← pieces? mixed rest
    return n :: more

/-- The pieces on one side of two colons, which may be none. -/
def side? (mixed : Bool) (cs : List Char) : Option (List Nat) :=
  if cs.isEmpty then some [] else pieces? mixed (Search.splitAt ':' cs)

/-- The eight pieces of an address of version 6. -/
def version6? (cs : List Char) : Option (List Nat) :=
  match Search.indexOf? [':', ':'] cs with
  | some i => do
    let left ← side? false (cs.take i)
    let right ← side? true (cs.drop (i + 2))
    let count := left.length + right.length
    if count < 8 then return left ++ List.replicate (8 - count) 0 ++ right else none
  | none => do
    let pieces ← pieces? true (Search.splitAt ':' cs)
    if pieces.length = 8 then return pieces else none

/-- An address of either version. -/
def isAddress (s : String) : Bool :=
  (version4? s.toList).isSome || (version6? s.toList).isSome

/-! ## Writing -/

/-- How many zero pieces stand in front. -/
def zeros (pieces : List Nat) : Nat :=
  (pieces.takeWhile (· == 0)).length

/-- The longest run of zero pieces, the first of several. -/
def longestZeros : List Nat → Nat
  | [] => 0
  | p :: rest => max (zeros (p :: rest)) (longestZeros rest)

/-- Pieces with colons between. -/
def joined (pieces : List Nat) : String :=
  String.intercalate ":" (pieces.map fun n => String.ofList (Nat.toDigits 16 n))

/-- How many pieces stand in front of the first run of so many zero pieces. -/
def beforeZeros (count : Nat) : List Nat → Nat
  | [] => 0
  | p :: rest => if zeros (p :: rest) = count then 0 else beforeZeros count rest + 1

/-- The normal form of an address of version 6. -/
def render (pieces : List Nat) : String :=
  let count := longestZeros pieces
  if count < 2 then joined pieces
  else
    let i := beforeZeros count pieces
    joined (pieces.take i) ++ "::" ++ joined (pieces.drop (i + count))

end PowerTelemetry.Address
