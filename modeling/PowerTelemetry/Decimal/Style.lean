import PowerTelemetry.Decimal.Shortest
/-!
# Decimal texts of doubles

A `Style` says how a double is written: which decimals are written with an
exponent, how a tie between two shortest decimals goes, whether a whole number
shows a fraction, and whether a positive exponent shows its sign.  `Style.text`
writes a double in a style, always with the fewest digits that read back.
-/

namespace PowerTelemetry.Decimal

/-- How doubles are written. -/
structure Style where
  /-- Which of two equally near decimals is taken. -/
  tie : Tie
  /-- Whether a number whose first digit counts `10^e` is written with an
  exponent. -/
  scientific : (e : Int) → Bool
  /-- A whole number ends in `.0`. -/
  wholeMark : Bool
  /-- An exponent that is not negative shows a plus sign. -/
  exponentPlus : Bool

/-- Never an exponent, no fraction on whole numbers, a tie upwards. -/
def Style.plain : Style :=
  ⟨.up, fun _ => false, false, false⟩

/-- An exponent below `10^-4` and from `10^16` on, a fraction on whole numbers,
a tie upwards. -/
def Style.detailed : Style :=
  ⟨.up, fun e => decide (e < -4 ∨ 16 ≤ e), true, false⟩

/-- An exponent below `10^-5` and from `10^16` on, a fraction on whole numbers,
a tie to the even digit. -/
def Style.interchange : Style :=
  ⟨.toEven, fun e => decide (e < -5 ∨ 16 ≤ e), true, true⟩

/-- The digits with the point inside, after, or before them. -/
def positional (style : Style) (ds : List Char) (exponent : Int) : List Char :=
  if 0 ≤ exponent then
    ds ++ List.replicate exponent.toNat '0' ++ (if style.wholeMark then ['.', '0'] else [])
  else
    let places := (-exponent).toNat
    if places < ds.length then
      ds.take (ds.length - places) ++ '.' :: ds.drop (ds.length - places)
    else
      '0' :: '.' :: (List.replicate (places - ds.length) '0' ++ ds)

/-- One digit before the point, the rest after it, and the exponent. -/
def withExponent (style : Style) (ds : List Char) (leading : Int) : List Char :=
  let significand := match ds with
    | [] => []
    | [d] => [d]
    | d :: rest => d :: '.' :: rest
  let sign := if leading < 0 then ['-'] else if style.exponentPlus then ['+'] else []
  significand ++ 'e' :: (sign ++ Nat.toDigits 10 leading.natAbs)

/-- The text of a positive decimal. -/
def Style.digitsText (style : Style) (d : Digits) : List Char :=
  let ds := Nat.toDigits 10 d.digits
  let leading := d.exponent + ds.length - 1
  if style.scientific leading then withExponent style ds leading
  else positional style ds d.exponent

/-- The text of a double. -/
def Style.text (style : Style) (x : Binary64) : String :=
  let signed (s : Bool) (cs : List Char) := String.ofList (if s then '-' :: cs else cs)
  match x.meaning with
  | .nan => "NaN"
  | .infinite s => signed s ['i', 'n', 'f']
  | .finite s m q =>
    if m = 0 then signed s (if style.wholeMark then ['0', '.', '0'] else ['0'])
    else signed s (style.digitsText (shortest style.tie m q))

end PowerTelemetry.Decimal
