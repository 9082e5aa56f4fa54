import PowerTelemetry.Binary64
/-!
# The shortest decimal that reads back

Many decimals round to one double.  Among them `shortest` picks one with the
fewest digits, and of those the nearest to the double; when two are equally
near, a `Tie` decides.

The real numbers that round to `m · 2^q` form an interval around it, ends
included when `m` is even.  For one, two, … seventeen digits, `gridPoint?`
looks at the two neighbours of the number on the grid of decimals with that
many digits.  If any point of a grid lies in the interval, so does one of
these two, so the first grid with a hit has the fewest digits.

All quantities are compared in exact integer arithmetic: `Interval` scales the
number and both ends of its interval by one common denominator.
-/

namespace PowerTelemetry.Decimal

/-- Which of two equally near decimals is taken. -/
inductive Tie where
  /-- The one whose last digit is even. -/
  | toEven
  /-- The greater one. -/
  | up
  deriving DecidableEq, Repr

/-- A positive decimal `digits · 10^exponent`. -/
structure Digits where
  digits : Nat
  exponent : Int
  deriving DecidableEq, Repr

/-- A positive number `value / unit` with the interval of numbers that round
to it: from `low / unit` to `high / unit`, ends included when `closed`. -/
structure Interval where
  low : Nat
  value : Nat
  high : Nat
  unit : Nat
  closed : Bool
  deriving Repr

/-- The interval of `m · 2^q`, in quarters of its last place.  Below a power of
two the neighbouring double is half as far away. -/
def Interval.ofBinary (m : Nat) (q : Int) : Interval :=
  let scale := Nat.pow 2 (q - 2).toNat
  let below := if m = Nat.pow 2 52 ∧ q ≠ -1074 then 1 else 2
  { low := (4 * m - below) * scale
    value := 4 * m * scale
    high := (4 * m + 2) * scale
    unit := Nat.pow 2 (2 - q).toNat
    closed := m % 2 == 0 }

/-- How many decimal digits a number has; zero has one. -/
def digitCount (n : Nat) : Nat :=
  (Nat.toDigits 10 n).length

/-- The exponent of the highest power of ten that is at most `n / d`, for
positive `n` and `d`. -/
def floorLog10 (n d : Nat) : Int :=
  if d ≤ n then (digitCount (n / d) : Int) - 1
  else -(digitCount ((d - 1) / n) : Int)

/-- `c · 10^e / 1` compared with `n / d`, both multiplied out. -/
def multipliedOut (c : Nat) (e : Int) (n d : Nat) : Nat × Nat :=
  (c * Nat.pow 10 e.toNat * d, n * Nat.pow 10 (-e).toNat)

/-- The decimal `c · 10^e` rounds to the number of the interval. -/
def Interval.contains (i : Interval) (c : Nat) (e : Int) : Bool :=
  let (x, low) := multipliedOut c e i.low i.unit
  let (_, high) := multipliedOut c e i.high i.unit
  if i.closed then decide (low ≤ x ∧ x ≤ high) else decide (low < x ∧ x < high)

/-- The point of the grid `10^e` in the interval that is nearest to its
number, if the grid has one there. -/
def Interval.gridPoint? (i : Interval) (tie : Tie) (e : Int) : Option Nat :=
  let floor := i.value * Nat.pow 10 (-e).toNat / (i.unit * Nat.pow 10 e.toNat)
  let next := floor + 1
  let (x, v) := multipliedOut floor e i.value i.unit
  let (y, _) := multipliedOut next e i.value i.unit
  match i.contains floor e, i.contains next e with
  | false, false => none
  | true, false => some floor
  | false, true => some next
  | true, true =>
    if v - x < y - v then some floor
    else if y - v < v - x then some next
    else match tie with
      | .toEven => some (if floor % 2 = 0 then floor else next)
      | .up => some next

/-- The decimal without trailing zeros; `fuel` bounds how many are dropped. -/
def Digits.trim (fuel : Nat) (d : Digits) : Digits :=
  match fuel with
  | 0 => d
  | fuel + 1 =>
    if d.digits ≠ 0 ∧ d.digits % 10 = 0 then trim fuel ⟨d.digits / 10, d.exponent + 1⟩ else d

/-- The first grid with a point in the interval, from one digit up to
`digitsLeft` more. -/
def Interval.search (i : Interval) (tie : Tie) (leading : Int) (count : Nat) :
    (digitsLeft : Nat) → Digits
  | 0 => ⟨i.value * Nat.pow 10 17 / i.unit, -17⟩
  | digitsLeft + 1 =>
    let e := leading - count
    match i.gridPoint? tie e with
    | some c => Digits.trim 20 ⟨c, e⟩
    | none => i.search tie leading (count + 1) digitsLeft

/-- The fewest digits that read back as `m · 2^q`, for a positive `m`. -/
def shortest (tie : Tie) (m : Nat) (q : Int) : Digits :=
  let i := Interval.ofBinary m q
  i.search tie (floorLog10 i.value i.unit) 0 17

end PowerTelemetry.Decimal
