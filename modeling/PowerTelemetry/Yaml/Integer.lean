import PowerTelemetry.Text.Hex
/-!
# Integers in YAML

An integer is written in decimal, or with `0x`, `0o` or `0b` in front in base
16, 8 or 2.  A sign comes first.  A decimal with a needless zero in front is no
integer.
-/

namespace PowerTelemetry.Yaml

/-- The digits of a base as a number; at least one. -/
def digits? (base : Nat) (ds : List Char) : Option Nat :=
  if ds.isEmpty then none
  else ds.foldlM (fun n c => do
    let v ← Text.hexDigit? c
    if v < base then return base * n + v else none) 0

/-- More digits than one, the first of them a zero. -/
def hasNeedlessZero (ds : List Char) : Bool :=
  1 < ds.length && ds.head? == some '0' && ds.all Char.isDigit

/-- A number without a sign. -/
def magnitude? : List Char → Option Nat
  | '0' :: 'x' :: ds => digits? 16 ds
  | '0' :: 'o' :: ds => digits? 8 ds
  | '0' :: 'b' :: ds => digits? 2 ds
  | ds => if hasNeedlessZero ds then none else digits? 10 ds

/-- A number that is not negative. -/
def unsigned? : List Char → Option Nat
  | '+' :: cs => magnitude? cs
  | cs => magnitude? cs

/-- A number with any sign. -/
def signed? : List Char → Option Int
  | '+' :: cs => (magnitude? cs).map Int.ofNat
  | '-' :: cs => (magnitude? cs).map fun n => -(n : Int)
  | cs => (magnitude? cs).map Int.ofNat

end PowerTelemetry.Yaml
