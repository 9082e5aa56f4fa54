/-!
# 64-bit floating-point numbers

A `Binary64` is an IEEE 754 double, kept as its 64 bits.  Nothing here uses
the machine's floating-point unit: every operation decodes the pattern into
`± m · 2^q`, works in exact integer arithmetic, and rounds once.

There are four groups.

* What a pattern denotes.  `meaning` splits a pattern into a finite
  `± m · 2^q`, an infinity, or no number.
* Rounding.  `ofRatio` gives the double nearest to a quotient of natural
  numbers, ties to the even neighbour, and everything beyond the largest
  double becomes an infinity.  `ofNat`, `ofInt`, `mul` and `div` are `ofRatio`
  at an exact ratio.
* Order.  `key` maps every number to an integer in the order of the reals,
  with both zeros at `0`; `le`, `lt` and `same` compare by it.
* Whole numbers.  `truncated` drops the fraction.  A number that this leaves
  as it is, and that is below `2^63` in magnitude, is integral, and `int64?` is
  the integer that it becomes.
-/

namespace PowerTelemetry

/-- An IEEE 754 double, as its bits. -/
structure Binary64 where
  bits : UInt64
  deriving DecidableEq, Repr, Inhabited

namespace Binary64

/-! ## What a pattern denotes -/

/-- The sign bit. -/
def negative (x : Binary64) : Bool :=
  decide (Nat.pow 2 63 ≤ x.bits.toNat)

/-- The eleven bits of the exponent field. -/
def exponentField (x : Binary64) : Nat :=
  x.bits.toNat / Nat.pow 2 52 % Nat.pow 2 11

/-- The fifty-two bits of the fraction field. -/
def fractionField (x : Binary64) : Nat :=
  x.bits.toNat % Nat.pow 2 52

/-- What a pattern denotes: `± m · 2^q`, `± ∞`, or no number. -/
inductive Meaning where
  | finite (negative : Bool) (m : Nat) (q : Int)
  | infinite (negative : Bool)
  | nan
  deriving DecidableEq, Repr

/-- An exponent field of ones is an infinity or no number; an exponent field
of zeros has no implicit leading one. -/
def meaning (x : Binary64) : Meaning :=
  if x.exponentField = 2047 then
    if x.fractionField = 0 then .infinite x.negative else .nan
  else if x.exponentField = 0 then .finite x.negative x.fractionField (-1074)
  else .finite x.negative (Nat.pow 2 52 + x.fractionField) ((x.exponentField : Int) - 1075)

/-- A pattern that denotes a real number. -/
def isFinite (x : Binary64) : Bool :=
  x.exponentField != 2047

/-- A pattern that denotes no number. -/
def isNaN (x : Binary64) : Bool :=
  x.exponentField == 2047 && x.fractionField != 0

/-- The two natural numbers whose quotient is `m · 2^q`. -/
def ratio (m : Nat) (q : Int) : Nat × Nat :=
  (m * Nat.pow 2 q.toNat, Nat.pow 2 (-q).toNat)

/-! ## Rounding -/

/-- The pattern without its sign set to a sign. -/
def ofMagnitude (negative : Bool) (magnitude : Nat) : Binary64 :=
  ⟨UInt64.ofNat (magnitude + if negative then Nat.pow 2 63 else 0)⟩

/-- The pattern of an infinity without its sign. -/
def infiniteMagnitude : Nat := 2047 * Nat.pow 2 52

/-- An infinity. -/
def infinity (negative : Bool) : Binary64 :=
  ofMagnitude negative infiniteMagnitude

/-- The pattern that stands for all that denote no number. -/
def nan : Binary64 :=
  ofMagnitude false (infiniteMagnitude + Nat.pow 2 51)

/-- The whole number nearest to `n / d`, a tie to the even one. -/
def roundToEven (n d : Nat) : Nat :=
  let floor := n / d
  let twice := 2 * (n % d)
  if twice > d ∨ (twice = d ∧ floor % 2 = 1) then floor + 1 else floor

/-- The exponent of the highest power of two that is at most `n / d`. -/
def floorLog2 (n d : Nat) : Int :=
  let k : Int := (n.log2 : Int) - d.log2
  if n * Nat.pow 2 (-k).toNat < d * Nat.pow 2 k.toNat then k - 1 else k

/-- The double nearest to `± n / d`, a tie to the even neighbour.  With `m`
the rounded significand at exponent `q ≥ -1074`, the pattern is
`(q + 1074) · 2^52 + m`: a significand of `2^52` or more carries into the
exponent field, one of `2^53` into the next exponent. -/
def ofRatio (negative : Bool) (n d : Nat) : Binary64 :=
  if n = 0 then ofMagnitude negative 0
  else
    let q := max (floorLog2 n d - 52) (-1074)
    let m := roundToEven (n * Nat.pow 2 (-q).toNat) (d * Nat.pow 2 q.toNat)
    ofMagnitude negative (min ((q + 1074).toNat * Nat.pow 2 52 + m) infiniteMagnitude)

/-- The double nearest to a natural number. -/
def ofNat (n : Nat) : Binary64 :=
  ofRatio false n 1

/-- The double nearest to an integer; zero is positive. -/
def ofInt (i : Int) : Binary64 :=
  ofRatio (decide (i < 0)) i.natAbs 1

/-- The number with the other sign. -/
def neg (x : Binary64) : Binary64 :=
  ofMagnitude (!x.negative) (x.bits.toNat % Nat.pow 2 63)

/-- The product, rounded once. -/
def mul (x y : Binary64) : Binary64 :=
  match x.meaning, y.meaning with
  | .finite s m q, .finite t n r =>
    let (a, b) := ratio (m * n) (q + r)
    ofRatio (s != t) a b
  | .infinite s, .infinite t => infinity (s != t)
  | .infinite s, .finite t n _ => if n = 0 then nan else infinity (s != t)
  | .finite s m _, .infinite t => if m = 0 then nan else infinity (s != t)
  | _, _ => nan

/-- The quotient, rounded once. -/
def div (x y : Binary64) : Binary64 :=
  match x.meaning, y.meaning with
  | .finite s m q, .finite t n r =>
    if n = 0 then
      if m = 0 then nan else infinity (s != t)
    else
      let (a, b) := ratio m (q - r)
      ofRatio (s != t) a (b * n)
  | .infinite s, .finite t _ _ => infinity (s != t)
  | .finite s _ _, .infinite t => ofMagnitude (s != t) 0
  | _, _ => nan

/-! ## Order -/

/-- An integer in the order of the reals; both zeros have `0`. -/
def key (x : Binary64) : Int :=
  let magnitude : Int := ((x.bits.toNat % Nat.pow 2 63 : Nat) : Int)
  if x.negative then -magnitude else magnitude

/-- At most, as numbers; nothing compares with no number. -/
def le (x y : Binary64) : Bool :=
  !x.isNaN && !y.isNaN && decide (x.key ≤ y.key)

/-- Below, as numbers. -/
def lt (x y : Binary64) : Bool :=
  x.le y && !y.le x

/-- The same number. -/
def same (x y : Binary64) : Bool :=
  x.le y && y.le x

/-! ## Whole numbers -/

/-- The number without its sign. -/
def abs (x : Binary64) : Binary64 :=
  ofMagnitude false (x.bits.toNat % Nat.pow 2 63)

/-- The number without its fraction. -/
def truncated (x : Binary64) : Binary64 :=
  match x.meaning with
  | .finite s m q =>
    let (a, b) := ratio m q
    ofRatio s (a / b) 1
  | _ => x

/-- `I64_BOUND`: the least magnitude that 64 bits with a sign have no room for. -/
def wholeBound : Binary64 :=
  ofNat (Nat.pow 2 63)

/-- `is_integral`: a whole number below `2^63` in magnitude. -/
def isIntegral (x : Binary64) : Bool :=
  x.isFinite && x.truncated.same x && x.abs.lt wholeBound

/-- An integer moved into the 64-bit range. -/
def saturated (i : Int) : Int64 :=
  Int64.ofInt (max (-Nat.pow 2 63) (min (Nat.pow 2 63 - 1) i))

/-- The number without its fraction as an integer; `0` for what is no number,
and the ends of the 64-bit range beyond it. -/
def toInt64 (x : Binary64) : Int64 :=
  match x.meaning with
  | .finite s m q =>
    let (a, b) := ratio m q
    let whole : Int := ((a / b : Nat) : Int)
    saturated (if s then -whole else whole)
  | .infinite s => saturated (if s then -Nat.pow 2 63 else Nat.pow 2 63)
  | .nan => 0

/-- The integer that an integral number becomes. -/
def int64? (x : Binary64) : Option Int64 :=
  if x.isIntegral then some x.toInt64 else none

theorem isSome_int64? (x : Binary64) : x.int64?.isSome = x.isIntegral := by
  rw [int64?]
  cases x.isIntegral <;> rfl

/-- The nearest whole number, a half away from zero; `0` for what is no
number, and the ends of the 64-bit range beyond it. -/
def roundToInt64 (x : Binary64) : Int64 :=
  match x.meaning with
  | .finite s m q =>
    let (a, b) := ratio m q
    let rounded : Int := (((2 * a + b) / (2 * b) : Nat) : Int)
    saturated (if s then -rounded else rounded)
  | .infinite s => saturated (if s then -Nat.pow 2 63 else Nat.pow 2 63)
  | .nan => 0

end Binary64

end PowerTelemetry
